import RealmDesk.Desk
import RealmDesk.Proofs.Editing.Forms

/-!
# What becomes of the editor

Every event leaves the editor as it is or does one known thing to its forms and its requests. What
is proved of forms and of requests in flight goes through these cases.
-/

namespace RealmDesk

namespace Desk

/-- The ticket that an outcome hands out to the user of the editor. -/
def Outcome.issued? : Outcome → Option Nat
  | .submitted (.ok request) => some request.ticket
  | _ => none

/-- The ticket of the editor that an event settles. -/
def Event.settled? : Event → Outcome → Option Nat
  | .complete ticket _, .completed (.ok _) => some ticket
  | _, _ => none

/-- The values that an event hands in for a block. -/
def Event.handed? (block : RecordId) : Event → Option BlockValues
  | .updateForm other values | .submit other values => if other = block then some values else none
  | _ => none

/-- What an event does to the editor of a desk, told by its outcome. -/
inductive Handled (desk : Desk) : Event → Outcome → Editor → Prop where
  /-- The editor stays as it is. No ticket is issued or settled, and if values were handed in then
  for a block without a form. -/
  | kept {event : Event} {outcome : Outcome} (issues : outcome.issued? = none)
      (settles : event.settled? outcome = none)
      (ignores : ∀ block values, event.handed? block = some values →
        desk.editor.form? block = none) : Handled desk event outcome desk.editor
  /-- A new block was inserted, and its form is opened. -/
  | inserted (realm : RecordId) (index : Nat) (kind : BlockKind) (defaults : FieldMap)
      (absent : desk.cache.store.records.view
        (.pending (desk.cache.store.lastPending + 1)) = none) :
      Handled desk (.insert realm index kind defaults)
        (.inserted (.ok (.pending (desk.cache.store.lastPending + 1))))
        (desk.editor.setForm (.pending (desk.cache.store.lastPending + 1))
          { values := .ofRecord kind (Editor.newRecord kind defaults) })
  /-- The form of a block is opened. -/
  | opened (block : RecordId) (record : Record) (kind : BlockKind)
      (stored : desk.cache.read block = some record) (typed : record.blockKind? = some kind)
      (formless : desk.editor.form? block = none) :
      Handled desk (.setEditMode block true) (.edited (.ok ()))
        (desk.editor.setForm block { values := .ofRecord kind record })
  /-- The form of a block is dropped because its edit mode ends. -/
  | left (block : RecordId) :
      Handled desk (.setEditMode block false) (.edited (.ok ())) (desk.editor.dropForm block)
  /-- The values of a form change. -/
  | typed (block : RecordId) (values : BlockValues) (form : BlockForm)
      (present : desk.editor.form? block = some form) :
      Handled desk (.updateForm block values) (.edited (.ok ()))
        (desk.editor.setForm block (form.type values))
  /-- A form is not sent. -/
  | refused (block : RecordId) (values : BlockValues) (errors : BlockFieldErrors)
      (error : SubmitError) :
      Handled desk (.submit block values) (.submitted (.error error))
        (desk.editor.setForm block { desk.editor.submittedForm block values with errors })
  /-- A form is sent. -/
  | sent (block : RecordId) (values : BlockValues) (input : BlockInput) (request : SaveRequest)
      (dispatcher : Dispatcher) (accepted : values.validate = .ok input)
      (dispatched : desk.editor.dispatcher.dispatch desk.cache.store block input =
        .ok (request, dispatcher)) :
      Handled desk (.submit block values) (.submitted (.ok request))
        ({ desk.editor with dispatcher }.setForm block
          { desk.editor.submittedForm block values with
            errors := [], submitError := none, inFlight := some request.ticket })
  /-- A block was saved, and its form is dropped. -/
  | saved (ticket : Nat) (result : ApiResult Json) (request : SaveRequest) (block : RecordId)
      (standing : desk.editor.dispatcher.inFlight[ticket]? = some request) :
      Handled desk (.complete ticket result) (.completed (.ok (.saved request.block block)))
        (((desk.editor.settle ticket).dropForm request.block).dropForm block)
  /-- A block was not saved. -/
  | failed (ticket : Nat) (result : ApiResult Json) (request : SaveRequest) (error : ApiError)
      (standing : desk.editor.dispatcher.inFlight[ticket]? = some request) :
      Handled desk (.complete ticket result) (.completed (.ok (.failed request.block error)))
        ((desk.editor.settle ticket).failForm request.block error)
  /-- An edit is cancelled; a dirty form is dropped if the user has confirmed. -/
  | cancelled (block : RecordId) (confirmed : Bool) (cancellation : Cancellation)
      (agreed : (desk.editor.form? block).any (·.dirty) = true → confirmed = true) :
      Handled desk (.cancel block confirmed) (.cancelled (.ok cancellation))
        (desk.editor.dropForm block)
  /-- Forms of blocks that are gone are dropped. -/
  | pruned :
      Handled desk .prune (.pruned (desk.editor.prune desk.cache.store).1)
        (desk.editor.prune desk.cache.store).2

variable (desk : Desk)

theorem Handled.idle {desk : Desk} {event : Event} {outcome : Outcome}
    (issues : outcome.issued? = none) (settles : event.settled? outcome = none)
    (silent : ∀ block, event.handed? block = none) : Handled desk event outcome desk.editor := by
  refine .kept issues settles fun block values handed => ?_
  rw [silent block] at handed
  cases handed

private theorem handled_insert (realm : RecordId) (index : Nat) (kind : BlockKind)
    (defaults : FieldMap) :
    Handled desk (.insert realm index kind defaults)
      (desk.step (.insert realm index kind defaults)).1
      (desk.step (.insert realm index kind defaults)).2.editor := by
  simp only [step, Editor.insert]
  rcases Editor.update_insertEdit desk.cache realm index (Editor.newRecord kind defaults) with
    ⟨done, absent, -⟩ | ⟨error, lastPending, failed, -⟩
  · rw [show desk.cache.update _ = (_, _) from Prod.ext done rfl]
    exact .inserted realm index kind defaults absent
  · rw [show desk.cache.update _ = (_, _) from Prod.ext failed rfl]
    exact .idle rfl rfl fun _ => rfl

private theorem handled_setEditMode (block : RecordId) (on : Bool) :
    Handled desk (.setEditMode block on) (desk.step (.setEditMode block on)).1
      (desk.step (.setEditMode block on)).2.editor := by
  simp only [step]
  rcases desk.editor.setEditMode_cases desk.cache block on with
    ⟨error, failed, same⟩ | ⟨record, stored, done, switched⟩
  · rw [failed, same]
    exact .idle rfl rfl fun _ => rfl
  · rw [done, switched]
    cases on with
    | false => exact .left block
    | true =>
        rw [if_pos rfl, Editor.openForm]
        split
        case h_1 kind typed formless => exact .opened block record kind stored typed formless
        case h_2 => exact .idle rfl rfl fun _ => rfl

private theorem handled_submit (block : RecordId) (values : BlockValues) :
    Handled desk (.submit block values) (desk.step (.submit block values)).1
      (desk.step (.submit block values)).2.editor := by
  simp only [step, Editor.submit]
  split
  case h_1 errors _ => exact .refused block values errors _
  case h_2 input accepted =>
    split
    case h_1 error _ => exact .refused block values [] _
    case h_2 request dispatcher dispatched =>
      exact .sent block values input request dispatcher accepted dispatched

private theorem handled_complete (ticket : Nat) (result : ApiResult Json) :
    Handled desk (.complete ticket result) (desk.step (.complete ticket result)).1
      (desk.step (.complete ticket result)).2.editor := by
  cases standing : desk.editor.dispatcher.inFlight[ticket]? with
  | none =>
      simp only [step, Editor.complete, Dispatcher.complete, standing]
      exact .idle rfl rfl fun _ => rfl
  | some request =>
      have finished := Dispatcher.finished desk.cache request result
      simp only [step, Editor.complete, Dispatcher.complete_of_found standing]
      generalize (Dispatcher.finish desk.cache request result).2 = after at finished ⊢
      generalize (Dispatcher.finish desk.cache request result).1 = outcome at finished ⊢
      cases finished with
      | refused error => exact .failed ticket result request error standing
      | updated => exact .saved ticket result request request.block standing
      | created _ _ _ _ saved => exact .saved ticket result request saved standing

private theorem handled_cancel (block : RecordId) (confirmed : Bool) :
    Handled desk (.cancel block confirmed) (desk.step (.cancel block confirmed)).1
      (desk.step (.cancel block confirmed)).2.editor := by
  simp only [step, Editor.cancel]
  split
  · exact .idle rfl rfl fun _ => rfl
  split
  · exact .idle rfl rfl fun _ => rfl
  split
  · exact .idle rfl rfl fun _ => rfl
  case isFalse asked =>
    have agreed (dirty : (desk.editor.form? block).any (·.dirty) = true) : confirmed = true := by
      simpa [dirty] using asked
    split
    · split
      case h_1 => exact .idle rfl rfl fun _ => rfl
      case h_2 => exact .cancelled block confirmed _ agreed
    · rcases desk.editor.setEditMode_cases desk.cache block false with
        ⟨error, failed, same⟩ | ⟨record, -, done, switched⟩
      · rw [show desk.editor.setEditMode desk.cache block false = (_, _, _) from
          Prod.ext failed (Prod.ext same rfl)]
        exact .idle rfl rfl fun _ => rfl
      · rw [show desk.editor.setEditMode desk.cache block false = (_, _, _) from
          Prod.ext done (Prod.ext switched rfl)]
        exact .cancelled block confirmed _ agreed

/-- Whatever happens, the editor stays as it is or one of the known things happens to it. -/
theorem handled (event : Event) :
    Handled desk event (desk.step event).1 (desk.step event).2.editor := by
  cases event with
  | insert realm index kind defaults => exact handled_insert desk realm index kind defaults
  | setEditMode block on => exact handled_setEditMode desk block on
  | updateForm block values =>
      simp only [step, Editor.updateForm]
      cases present : desk.editor.form? block with
      | none =>
          refine .kept rfl rfl fun other handed named => ?_
          obtain ⟨rfl, -⟩ := Option.ite_none_right_eq_some.mp named
          exact present
      | some form => exact .typed block values form present
  | submit block values => exact handled_submit desk block values
  | complete ticket result => exact handled_complete desk ticket result
  | cancel block confirmed => exact handled_cancel desk block confirmed
  | prune => exact .pruned
  | dispatch block input =>
      simp only [step]
      split <;> exact .idle rfl rfl fun _ => rfl
  | finish ticket result =>
      simp only [step]
      split <;> exact .idle rfl rfl fun _ => rfl
  | update script => exact .idle rfl rfl fun _ => rfl
  | _ => exact .idle rfl rfl fun _ => rfl

end Desk

end RealmDesk
