import RealmDesk.Proofs.Desk.PendingIds
import RealmDesk.Proofs.Editing.Values

/-!
# Unsaved edits

What was typed into the form of a block stays there until somebody who may throw it away does so. An
edit begins with the form, whatever opens it, and goes on with all values that are handed in for the
block. The form is dirty as soon as others were handed in than it was opened with, and only then is
the user asked before it is dropped.
-/

namespace RealmDesk

namespace Desk

variable {desk : Desk} {block : RecordId} {event : Event} {outcome : Outcome}

/-- What an event makes of the form of one block. -/
inductive Fate (desk : Desk) (block : RecordId) : Event → Outcome → Option BlockForm → Prop where
  /-- The values stay, and whether they were changed. None were handed in for a form. -/
  | spared {event : Event} {outcome : Outcome} (after : Option BlockForm)
      (ignored : ∀ values, event.handed? block = some values → desk.editor.form? block = none)
      (same : after.map (fun form => (form.values, form.dirty)) =
        (desk.editor.form? block).map fun form => (form.values, form.dirty)) :
      Fate desk block event outcome after
  /-- The form of a new block is opened. -/
  | inserted (realm : RecordId) (index : Nat) (kind : BlockKind) (defaults : FieldMap)
      (outcome : Outcome) (next : block = .pending (desk.cache.store.lastPending + 1))
      (inserted : outcome = .inserted (.ok block)) :
      Fate desk block (.insert realm index kind defaults) outcome
        (some { values := .ofRecord kind (Editor.newRecord kind defaults) })
  /-- The form of a stored block is opened. -/
  | opened (record : Record) (kind : BlockKind) (outcome : Outcome)
      (stored : desk.cache.read block = some record) (typed : record.blockKind? = some kind)
      (formless : desk.editor.form? block = none) :
      Fate desk block (.setEditMode block true) outcome (some { values := .ofRecord kind record })
  /-- Values are typed. -/
  | typed (values : BlockValues) (form : BlockForm) (outcome : Outcome)
      (present : desk.editor.form? block = some form) :
      Fate desk block (.updateForm block values) outcome (some (form.type values))
  /-- Values are submitted. -/
  | submitted (values : BlockValues) (outcome : Outcome) (form : BlockForm)
      (same : (form.values, form.dirty) = ((desk.editor.submittedForm block values).values,
        (desk.editor.submittedForm block values).dirty)) :
      Fate desk block (.submit block values) outcome (some form)
  /-- The edit mode is switched off. -/
  | left (outcome : Outcome) : Fate desk block (.setEditMode block false) outcome none
  /-- The edit is cancelled; the user has confirmed if the form is dirty. -/
  | cancelled (confirmed : Bool) (outcome : Outcome)
      (agreed : (desk.editor.form? block).any (·.dirty) = true → confirmed = true) :
      Fate desk block (.cancel block confirmed) outcome none
  /-- The block is gone, and its form is dropped. -/
  | pruned (outcome : Outcome) (gone : desk.cache.store.contains block = false) :
      Fate desk block .prune outcome none
  /-- The block is saved, or another one that has its id from now on. -/
  | saved (ticket : Nat) (result : ApiResult Json) (previous later : RecordId)
      (named : block = previous ∨ block = later) :
      Fate desk block (.complete ticket result) (.completed (.ok (.saved previous later))) none

theorem fate_of_handled {editor : Editor} (handled : Handled desk event outcome editor)
    (block : RecordId) : Fate desk block event outcome (editor.form? block) := by
  cases handled with
  | kept issues settles ignores => exact .spared _ (ignores block) rfl
  | inserted realm index kind defaults =>
      rw [Editor.form?_setForm]
      split
      case isTrue same => exact .inserted realm index kind defaults _ same.symm (by rw [same])
      case isFalse => exact .spared _ nofun rfl
  | opened other record kind stored typed formless =>
      rw [Editor.form?_setForm]
      split
      case isTrue same => exact same ▸ .opened record kind _ stored typed formless
      case isFalse => exact .spared _ nofun rfl
  | left other =>
      rw [Editor.form?_dropForm]
      split
      case isTrue same => exact same ▸ .left _
      case isFalse => exact .spared _ nofun rfl
  | typed other values form present =>
      rw [Editor.form?_setForm]
      split
      case isTrue same => exact same ▸ .typed values form _ present
      case isFalse different => exact .spared _ (by simp [Event.handed?, different]) rfl
  | refused other values errors error =>
      rw [Editor.form?_setForm]
      split
      case isTrue same => exact same ▸ .submitted values _ _ rfl
      case isFalse different => exact .spared _ (by simp [Event.handed?, different]) rfl
  | sent other values input request dispatcher =>
      rw [Editor.form?_setForm]
      split
      case isTrue same => exact same ▸ .submitted values _ _ rfl
      case isFalse different => exact .spared _ (by simp [Event.handed?, different]) rfl
  | saved ticket result request later =>
      rw [Editor.form?_dropForm, Editor.form?_dropForm]
      split
      case isTrue same => exact .saved ticket result _ _ (.inr same.symm)
      case isFalse =>
        split
        case isTrue same => exact .saved ticket result _ _ (.inl same.symm)
        case isFalse => exact .spared _ nofun rfl
  | failed ticket result request error =>
      rw [Editor.form?_failForm]
      refine .spared _ nofun ?_
      split
      case isTrue same =>
        rw [same, Option.map_map]
        rfl
      case isFalse => rfl
  | cancelled other confirmed cancellation agreed =>
      rw [Editor.form?_dropForm]
      split
      case isTrue same => exact same ▸ .cancelled confirmed _ agreed
      case isFalse => exact .spared _ nofun rfl
  | pruned =>
      rw [Editor.form?_prune]
      cases present : desk.editor.form? block with
      | none => exact .spared _ nofun (by simp [present])
      | some form =>
          cases kept : Editor.keepsForm desk.cache.store block form with
          | true => exact .spared _ nofun (by simp [present, kept])
          | false =>
              rw [Option.filter_some, kept]
              refine .pruned _ ?_
              rw [Editor.keepsForm, Bool.or_eq_false_iff] at kept
              exact kept.2

theorem fate (desk : Desk) (block : RecordId) (event : Event) :
    Fate desk block event (desk.step event).1 ((desk.step event).2.editor.form? block) :=
  fate_of_handled (desk.handled event) block

/-- An edit of a block: what its form was opened with, and what was handed in for it since. -/
structure Revision where
  /-- What the record gave when the block had no form, or what the new record gave. -/
  first : Option BlockValues
  /-- What the form was opened with. -/
  opened : BlockValues
  /-- What was handed in since, in order. -/
  handed : List BlockValues := []
deriving DecidableEq

namespace Revision

/-- What was handed in last, or what the form was opened with. -/
def latest (edit : Revision) : BlockValues :=
  edit.handed.getLast?.getD edit.opened

/-- The edit with the values that an event hands in. -/
def hand (edit : Revision) (values? : Option BlockValues) : Revision :=
  { edit with handed := edit.handed ++ values?.toList }

/-- The form was opened by submitted values that the record did not give, and no others were handed
in since. -/
def Untouched (edit : Revision) : Prop :=
  edit.first ≠ some edit.opened ∧ ∀ values ∈ edit.handed, values = edit.opened

instance (edit : Revision) : Decidable edit.Untouched :=
  inferInstanceAs (Decidable (_ ∧ _))

variable {edit : Revision}

theorem hand_none : edit.hand none = edit := by
  rw [hand, Option.toList_none, List.append_nil]

theorem latest_hand (values? : Option BlockValues) :
    (edit.hand values?).latest = values?.getD edit.latest := by
  cases values? <;> simp [latest, hand]

theorem latest_eq_opened (same : ∀ values ∈ edit.handed, values = edit.opened) :
    edit.latest = edit.opened := by
  rw [latest]
  cases last : edit.handed.getLast? with
  | none => rfl
  | some values => exact same values (List.mem_of_getLast? last)

end Revision

/-- The values that the record of a block gives. -/
def shownValues? (desk : Desk) (block : RecordId) : Option BlockValues :=
  (desk.cache.read block).bind fun record =>
    record.blockKind?.map fun kind => .ofRecord kind record

/-- The block that an outcome inserts. -/
def Outcome.inserted? : Outcome → Option RecordId
  | .inserted (.ok block) => some block
  | _ => none

/-- The edit that begins when an event opens the form of a block, with the values that it hands in
or with those of the record. -/
def openEdit? (desk : Desk) (block : RecordId) (event : Event) : Option Revision :=
  let first := (desk.shownValues? block).or ((desk.step event).2.shownValues? block)
  ((event.handed? block).or first).map fun opened => { first, opened }

/-- What an event makes of the edit of a block, which lasts as long as the form. A new block begins
an edit of its own, also if there was a form for its id before. -/
def revise (desk : Desk) (block : RecordId) (event : Event) (edit? : Option Revision) :
    Option Revision :=
  match (desk.step event).2.editor.form? block, desk.editor.form? block with
  | none, _ => none
  | some _, none => desk.openEdit? block event
  | some _, some _ =>
      if (desk.step event).1.inserted? = some block then desk.openEdit? block event
      else edit?.map (·.hand (event.handed? block))

/-- The edit of a block after some events. -/
def editAfter (desk : Desk) (block : RecordId) (edit? : Option Revision) :
    List Event → Option Revision
  | [] => edit?
  | event :: events => (desk.step event).2.editAfter block (desk.revise block event edit?) events

/-- A cancellation drops the edit of a block unasked: its form was opened by submitted values that
the record did not give, no others were handed in since, the block is stored and not being saved. -/
def Overlooks (desk : Desk) (block : RecordId) (edit : Revision) : Prop :=
  edit.Untouched ∧ desk.editor.dispatcher.isInFlight block = false ∧
    desk.cache.store.contains block = true

/-- What the form of a block has to do with the edit of the block. -/
inductive Upholds : Option BlockForm → Option Revision → Prop where
  /-- There is neither a form nor an edit. -/
  | idle : Upholds none none
  /-- The form holds what was handed in last. As long as it is clean, that was always what it was
  opened with. -/
  | editing {form : BlockForm} {edit : Revision} (holds : form.values = edit.latest)
      (clean : form.dirty = false → ∀ values ∈ edit.handed, values = edit.opened) :
      Upholds (some form) (some edit)

theorem shownValues?_eq_view (desk : Desk) (block : RecordId) :
    desk.shownValues? block = (desk.view block).bind fun record =>
      record.blockKind?.map fun kind => .ofRecord kind record := by
  rw [shownValues?, view, Records.view]
  change desk.cache.store.records[block]?.bind _ = _
  cases desk.cache.store.records[block]? with
  | none => rfl
  | some record =>
      simp only [Option.bind_some, Option.map_some, Record.ofRecord_unsignedZeros]
      rfl

theorem blockKind?_newRecord (kind : BlockKind) (defaults : FieldMap) :
    (Editor.newRecord kind defaults).blockKind? = some kind := by
  rw [Record.blockKind?, Editor.typeTag_newRecord, BlockKind.ofTypeTag?_typeTag]

theorem shownValues?_of_inserted {realm : RecordId} {index : Nat} {kind : BlockKind}
    {defaults : FieldMap}
    (inserted : (desk.step (.insert realm index kind defaults)).1 = .inserted (.ok block)) :
    desk.shownValues? block = none ∧
      (desk.step (.insert realm index kind defaults)).2.shownValues? block =
        some (.ofRecord kind (Editor.newRecord kind defaults)) := by
  obtain ⟨rfl, -⟩ := inserted_of_step inserted
  rcases desk.editor.insert_cases desk.cache realm index kind defaults with
    ⟨-, ⟨done, absent, ⟨found, present, -⟩, -, wrote⟩ | ⟨error, lastPending, failed, -⟩⟩
  · have different : RecordId.pending (desk.cache.store.lastPending + 1) ≠ realm := by
      rintro rfl
      simp [absent] at present
    have shown : (desk.step (.insert realm index kind defaults)).2.view
        (.pending (desk.cache.store.lastPending + 1)) =
          some (Editor.newRecord kind defaults).unsignedZeros := by
      rw [show (desk.step (.insert realm index kind defaults)).2.view = _ from wrote.view,
        View.place, View.setBlocks, View.set_of_ne _ _ _ different, Function.update_self]
    have unshown : desk.view (.pending (desk.cache.store.lastPending + 1)) = none := absent
    rw [shownValues?_eq_view, shownValues?_eq_view, unshown, shown]
    refine ⟨rfl, ?_⟩
    simp only [Option.bind_some, Record.ofRecord_unsignedZeros]
    change (Editor.newRecord kind defaults).blockKind?.map _ = _
    rw [blockKind?_newRecord, Option.map_some]
  · simp only [step, failed, Outcome.inserted.injEq] at inserted
    cases inserted

namespace Upholds

theorem opened (first : Option BlockValues) (values : BlockValues) :
    Upholds (some { values }) (some { first, opened := values }) :=
  .editing rfl fun _ => nofun

theorem of_same {form later : BlockForm} {edit? : Option Revision}
    (same : (later.values, later.dirty) = (form.values, form.dirty))
    (upholds : Upholds (some form) edit?) : Upholds (some later) edit? := by
  obtain - | ⟨holds, clean⟩ := upholds
  obtain ⟨values, dirty⟩ := Prod.mk.inj same
  exact .editing (values.trans holds) fun untouched => clean (dirty ▸ untouched)

theorem type {form : BlockForm} {edit? : Option Revision} (upholds : Upholds (some form) edit?)
    (values : BlockValues) :
    Upholds (some (form.type values)) (edit?.map (·.hand (some values))) := by
  obtain - | @⟨_, edit, holds, clean⟩ := upholds
  refine .editing ?_ fun untouched => ?_
  · rw [BlockForm.values_type, Revision.latest_hand, Option.getD_some]
  · -- The form was clean and held the values already, so they are those that it was opened with.
    obtain ⟨wasClean, typed⟩ := BlockForm.of_dirty_type untouched
    have same := clean wasClean
    have again : values = edit.opened := by
      rw [← typed, holds, Revision.latest_eq_opened same]
    intro other member
    rcases List.mem_append.mp member with old | new
    · exact same other old
    · exact (List.mem_singleton.mp new).trans again

end Upholds

theorem openEdit?_of_inserted {realm : RecordId} {index : Nat} {kind : BlockKind}
    {defaults : FieldMap}
    (inserted : (desk.step (.insert realm index kind defaults)).1 = .inserted (.ok block)) :
    desk.openEdit? block (.insert realm index kind defaults) =
      some { first := some (.ofRecord kind (Editor.newRecord kind defaults)),
             opened := .ofRecord kind (Editor.newRecord kind defaults) } := by
  obtain ⟨unshown, shown⟩ := shownValues?_of_inserted inserted
  simp [openEdit?, unshown, shown, Event.handed?]

theorem form?_of_inserted (inserted : (desk.step event).1 = .inserted (.ok block)) :
    ∃ realm index kind defaults, event = .insert realm index kind defaults ∧
      (desk.step event).2.editor.form? block =
        some { values := .ofRecord kind (Editor.newRecord kind defaults) } := by
  cases event with
  | insert realm index kind defaults =>
      simp only [step, Editor.insert] at inserted ⊢
      split at inserted
      case h_1 other cache done =>
        cases inserted
        exact ⟨_, _, _, _, rfl, by rw [Editor.form?_setForm, if_pos rfl]⟩
      case h_2 => cases inserted
  | updateForm | complete | dispatch | finish =>
      simp only [step] at inserted
      split at inserted <;> cases inserted
  | _ => cases inserted

theorem Outcome.inserted?_eq_some (outcome : Outcome) :
    outcome.inserted? = some block ↔ outcome = .inserted (.ok block) := by
  rcases outcome with - | - | (- | other) | - | - | - | - | - | - | - | - | - | - | - | - <;>
    simp [inserted?]

/-- Whatever happens, the form of a block holds what its edit comes to. -/
theorem Upholds.revise {edit? : Option Revision} (upholds : Upholds (desk.editor.form? block) edit?)
    (event : Event) :
    Upholds ((desk.step event).2.editor.form? block) (desk.revise block event edit?) := by
  by_cases inserted : (desk.step event).1.inserted? = some block
  · have new := (Outcome.inserted?_eq_some _).mp inserted
    obtain ⟨realm, index, kind, defaults, rfl, form⟩ := form?_of_inserted new
    have begun : desk.revise block (.insert realm index kind defaults) edit? =
        desk.openEdit? block (.insert realm index kind defaults) := by
      rw [Desk.revise, form, if_pos inserted]
      cases desk.editor.form? block <;> rfl
    rw [begun, openEdit?_of_inserted new, form]
    exact .opened _ _
  · have fate := desk.fate block event
    rw [Desk.revise, if_neg inserted]
    rw [Outcome.inserted?_eq_some] at inserted
    generalize (desk.step event).2.editor.form? block = after at fate ⊢
    generalize (desk.step event).1 = outcome at fate inserted
    cases fate with
    | left | cancelled | pruned | saved => exact .idle
    | inserted realm index kind defaults _ _ new => exact absurd new inserted
    | opened record kind _ stored typed formless =>
        have shown : desk.shownValues? block = some (.ofRecord kind record) := by
          simp [shownValues?, stored, typed]
        simp only [formless, openEdit?, Event.handed?, shown, Option.some_or, Option.none_or,
          Option.map_some]
        exact .opened _ _
    | typed values old _ present =>
        rw [present] at upholds ⊢
        simp only [Event.handed?, if_pos]
        exact upholds.type values
    | submitted values _ later same =>
        refine .of_same same ?_
        rw [Editor.submittedForm]
        cases present : desk.editor.form? block with
        | none =>
            simp only [openEdit?, Event.handed?, if_pos, Option.some_or, Option.map_some,
              Option.getD_none, BlockForm.type]
            exact .opened _ _
        | some old =>
            rw [present] at upholds
            simp only [Event.handed?, if_pos, Option.getD_some]
            exact upholds.type values
    | spared _ ignored same =>
        cases present : desk.editor.form? block with
        | none =>
            rw [present, Option.map_none, Option.map_eq_none_iff] at same
            rw [same]
            exact .idle
        | some old =>
            have silent : event.handed? block = none := by
              rw [Option.eq_none_iff_forall_ne_some]
              intro values handed
              simp [ignored values handed] at present
            rw [present, Option.map_some, Option.map_eq_some_iff] at same
            obtain ⟨later, rfl, same⟩ := same
            rw [present] at upholds
            simp only [silent, Revision.hand_none, Option.map_id']
            exact .of_same same upholds

theorem Upholds.run {edit? : Option Revision} (upholds : Upholds (desk.editor.form? block) edit?)
    (events : List Event) :
    Upholds ((desk.run events).editor.form? block) (desk.editAfter block edit? events) := by
  induction events generalizing desk edit? with
  | nil => exact upholds
  | cons event events induction => exact induction (upholds.revise event)

/-- A cancellation without confirmation changes nothing, unless the edit is overlooked. -/
theorem Upholds.cancel {edit : Revision}
    (upholds : Upholds (desk.editor.form? block) (some edit))
    (changed : edit.first ≠ some edit.latest) (watched : ¬ desk.Overlooks block edit) :
    desk.step (.cancel block false) = (.cancelled
      (if desk.editor.dispatcher.isInFlight block then .ok .inFlight
      else if desk.cache.store.contains block then .ok .needsConfirmation
      else .error (.unknownBlock block)), desk) := by
  cases busy : desk.editor.dispatcher.isInFlight block with
  | true => simp [step, Editor.cancel, busy]
  | false =>
      cases stored : desk.cache.store.contains block with
      | false => simp [step, Editor.cancel, busy, stored]
      | true =>
          generalize present : desk.editor.form? block = form? at upholds
          obtain - | ⟨-, clean⟩ := upholds
          have dirty : (desk.editor.form? block).any (·.dirty) = true := by
            rw [present, Option.any_some, ← Bool.not_eq_false]
            intro untouched
            have same := clean untouched
            rw [Revision.latest_eq_opened same] at changed
            exact watched ⟨⟨changed, same⟩, busy, stored⟩
          simp [step, Editor.cancel, busy, stored, dirty]

end Desk

end RealmDesk
