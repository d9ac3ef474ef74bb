import RealmDesk.Desk
import RealmDesk.Proofs.Editing.Forms

/-!
# Refusals at the desk

An edit that is refused leaves no trace. A switch of the edit mode, typing and a cancellation are
carried out or leave the desk as it is. A form that is submitted and not sent takes over the values
and names those that were refused; no record, no request and no other form changes.
-/

namespace RealmDesk

/-- The values that are named as refused when a form is not sent. -/
def SubmitError.fieldErrors : SubmitError → BlockFieldErrors
  | .invalid errors => errors
  | .dispatch _ => []

namespace Editor

/-- The form of a block that is not sent: it holds the values and names those that were refused. -/
def unsentForm (editor : Editor) (block : RecordId) (values : BlockValues) (error : SubmitError) :
    BlockForm :=
  { editor.submittedForm block values with errors := error.fieldErrors }

variable {editor : Editor} {cache : Cache} {store : Store} {block : RecordId} {values : BlockValues}

/-- Switching the edit mode fails only if the block is not stored, and then before anything is
written. -/
theorem setEditMode_of_error {on : Bool} {error : EditError}
    (failed : (editor.setEditMode cache block on).1 = .error error) :
    cache.read block = none ∧
      editor.setEditMode cache block on = (.error (.unknownBlock block), editor, cache) := by
  cases stored : cache.read block with
  | none => exact ⟨rfl, by rw [setEditMode, stored]⟩
  | some record =>
      rw [(editor.setEditMode_of_stored stored on).1] at failed
      cases failed

/-- A cancellation removes the block, gives up its edits or leaves everything as it is. Once it has
begun to write it goes through. -/
theorem cancel_cases_of_result (editor : Editor) (cache : Cache) (block : RecordId)
    (confirmed : Bool) :
    let cancelled := editor.cancel cache block confirmed
    cancelled.1 = .ok .removed ∨ cancelled.1 = .ok .discarded ∨ cancelled.2 = (editor, cache) := by
  intro cancelled
  simp only [cancelled, cancel]
  split
  · exact .inr (.inr rfl)
  split
  · exact .inr (.inr rfl)
  split
  · exact .inr (.inr rfl)
  -- From here on records are written, and nothing fails: the block and its realms are stored.
  case isFalse stored _ =>
    split
    · have done := (update_removeEdit cache block).1
      rw [show cache.update _ = (_, _) from Prod.ext done rfl]
      exact .inl rfl
    · have contained : cache.store.contains block = true := by simpa using stored
      have found : (cache.read block).isSome :=
        Std.ExtTreeMap.mem_iff_isSome_getElem?.mp contained
      obtain ⟨record, present⟩ := Option.isSome_iff_exists.mp found
      have done := (editor.setEditMode_of_stored present false).1
      rw [show editor.setEditMode cache block false = (_, _) from Prod.ext done rfl]
      exact .inr (.inl rfl)

/-- Values are refused exactly if they are not valid. -/
theorem submit_eq_invalid_iff {errors : BlockFieldErrors} :
    (editor.submit store block values).1 = .error (.invalid errors) ↔
      values.validate = .error errors := by
  rw [submit]
  cases checked : values.validate with
  | error found => simp
  | ok input =>
      cases sent : editor.dispatcher.dispatch store block input <;> simp [sent]

/-- If a form is not sent then nothing else of the editor changes. -/
theorem submit_of_error {error : SubmitError}
    (failed : (editor.submit store block values).1 = .error error) :
    (editor.submit store block values).2 =
      editor.setForm block (editor.unsentForm block values error) := by
  rw [submit] at failed ⊢
  cases checked : values.validate with
  | error errors =>
      simp only [checked, Except.error.injEq] at failed ⊢
      rw [← failed, unsentForm, SubmitError.fieldErrors]
  | ok input =>
      cases sent : editor.dispatcher.dispatch store block input with
      | error refusal =>
          simp only [checked, sent, Except.error.injEq] at failed ⊢
          rw [← failed, unsentForm, SubmitError.fieldErrors]
      | ok request => simp [checked, sent] at failed

end Editor

namespace Desk

/-- An event came to a refusal. -/
inductive Refused : Event → Outcome → Prop where
  /-- The edit mode was not switched. -/
  | switch {block : RecordId} {on : Bool} (error : EditError) :
      Refused (.setEditMode block on) (.edited (.error error))
  /-- The values were not taken over. -/
  | typing {block : RecordId} {values : BlockValues} (error : EditError) :
      Refused (.updateForm block values) (.edited (.error error))
  /-- The edit was not cancelled. -/
  | cancellation {block : RecordId} {confirmed : Bool} (error : EditError) :
      Refused (.cancel block confirmed) (.cancelled (.error error))
  /-- The user has to confirm the cancellation. -/
  | unconfirmed {block : RecordId} {confirmed : Bool} :
      Refused (.cancel block confirmed) (.cancelled (.ok .needsConfirmation))
  /-- The block is being saved. -/
  | saving {block : RecordId} {confirmed : Bool} :
      Refused (.cancel block confirmed) (.cancelled (.ok .inFlight))

/-- A desk after a form was submitted and not sent. -/
structure Unsent (desk : Desk) (block : RecordId) (values : BlockValues) (error : SubmitError)
    (after : Desk) : Prop where
  /-- No record changes, and nobody is told of any. -/
  records : after.cache = desk.cache
  /-- No ticket is issued, and the requests in flight stay. -/
  requests : after.editor.dispatcher = desk.editor.dispatcher
  /-- The form of the block holds the values and names those that were refused. -/
  form : after.editor.form? block = some (desk.editor.unsentForm block values error)
  /-- The forms of other blocks stay. -/
  others : ∀ other, other ≠ block → after.editor.form? other = desk.editor.form? other
  /-- What is no part of the editor stays. -/
  beside : after.navigator = desk.navigator ∧ after.dispatcher = desk.dispatcher

variable {desk : Desk} {event : Event} {block : RecordId} {values : BlockValues}

/-- A cancellation leaves the desk as it is unless it removes the block or gives up its edits. -/
theorem step_cancel_of_ne {confirmed : Bool} {result : Except EditError Cancellation}
    (told : (desk.step (.cancel block confirmed)).1 = .cancelled result)
    (standing : result ≠ .ok .removed) (unchanged : result ≠ .ok .discarded) :
    (desk.step (.cancel block confirmed)).2 = desk := by
  obtain rfl : (desk.editor.cancel desk.cache block confirmed).1 = result :=
    Outcome.cancelled.inj told
  rcases desk.editor.cancel_cases_of_result desk.cache block confirmed with
    removed | discarded | same
  · exact absurd removed standing
  · exact absurd discarded unchanged
  · simp only [step, same]

/-- What is refused leaves the desk as it is. -/
theorem step_of_refused (refused : Refused event (desk.step event).1) :
    (desk.step event).2 = desk := by
  generalize told : (desk.step event).1 = outcome at refused
  cases refused with
  | @switch block on error =>
      have failed : (desk.editor.setEditMode desk.cache block on).1 = .error error := by
        simpa [step] using told
      simp only [step, (Editor.setEditMode_of_error failed).2]
  | @typing block values error =>
      rw [step] at told ⊢
      split
      case h_1 done => simp [done] at told
      case h_2 => rfl
  | cancellation error => exact step_cancel_of_ne told nofun nofun
  | unconfirmed => exact step_cancel_of_ne told nofun nofun
  | saving => exact step_cancel_of_ne told nofun nofun

/-- A form that is not sent is all that changes. -/
theorem unsent_of_error {error : SubmitError}
    (told : (desk.step (.submit block values)).1 = .submitted (.error error)) :
    desk.Unsent block values error (desk.step (.submit block values)).2 := by
  have set := Editor.submit_of_error (Outcome.submitted.inj told)
  simp only [step, set]
  refine ⟨rfl, rfl, ?_, fun other different => ?_, rfl, rfl⟩
  · simp only [Editor.form?_setForm, if_pos]
  · simp only [Editor.form?_setForm, if_neg different.symm]

/-- Edits that fail are confined. Whatever comes of a submitted form, no record changes, and it is
refused for its values exactly if they are not valid; if it is not sent then nothing but this form
changes. Any other edit that is refused changes nothing at all. -/
theorem failures_confined (desk : Desk) :
    (∀ block values, ∃ result after,
      desk.step (.submit block values) = (.submitted result, after) ∧ after.cache = desk.cache ∧
        (∀ errors, result = .error (.invalid errors) ↔ values.validate = .error errors) ∧
        ∀ error, result = .error error → desk.Unsent block values error after) ∧
      ∀ event, Refused event (desk.step event).1 → (desk.step event).2 = desk := by
  refine ⟨fun block values => ?_, fun event => step_of_refused⟩
  refine ⟨_, _, rfl, rfl, fun errors => Editor.submit_eq_invalid_iff, fun error failed => ?_⟩
  exact unsent_of_error (congrArg Outcome.submitted failed)

end Desk

end RealmDesk
