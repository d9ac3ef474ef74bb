import RealmDesk.Proofs.Editing.Writes

/-!
# What happens to forms

What typing does to a form, and what each way of writing forms leaves of the form of a block. A form
is sent if its values are accepted and the dispatcher takes them, and a stored block can be opened.
-/

namespace RealmDesk

namespace BlockForm

theorem values_type (form : BlockForm) (values : BlockValues) :
    (form.type values).values = values := by
  rw [type]
  split
  case isTrue same => exact same
  case isFalse => rfl

theorem of_dirty_type {form : BlockForm} {values : BlockValues}
    (clean : (form.type values).dirty = false) : form.dirty = false ∧ form.values = values := by
  rw [type] at clean
  split at clean
  case isTrue same => exact ⟨clean, same⟩
  case isFalse => cases clean

@[simp] theorem inFlight_type (form : BlockForm) (values : BlockValues) :
    (form.type values).inFlight = form.inFlight := by
  rw [BlockForm.type]
  split <;> rfl

end BlockForm

namespace Editor

theorem form?_setForm (editor : Editor) (block : RecordId) (form : BlockForm) (other : RecordId) :
    (editor.setForm block form).form? other =
      if block = other then some form else editor.form? other := by
  simp [form?, setForm, Std.ExtTreeMap.getElem?_insert]

theorem form?_dropForm (editor : Editor) (block other : RecordId) :
    (editor.dropForm block).form? other =
      if block = other then none else editor.form? other := by
  simp [form?, dropForm, Std.ExtTreeMap.getElem?_erase]

theorem form?_failForm (editor : Editor) (block : RecordId) (error : ApiError)
    (other : RecordId) :
    (editor.failForm block error).form? other =
      if block = other then
        (editor.form? block).map fun form =>
          { form with inFlight := none, submitError := some error }
      else editor.form? other := by
  rw [failForm]
  cases present : editor.form? block with
  | none =>
      by_cases same : block = other
      · simp [← same, present]
      · simp [same]
  | some form => exact form?_setForm editor block _ other

theorem form?_prune (editor : Editor) (store : Store) (block : RecordId) :
    (editor.prune store).2.form? block = (editor.form? block).filter (keepsForm store block) := by
  rw [form?, prune, Std.ExtTreeMap.getElem?_filter', form?]

/-- The editor with a request in flight no more. -/
def settle (editor : Editor) (ticket : Nat) : Editor :=
  { editor with dispatcher :=
      { editor.dispatcher with inFlight := editor.dispatcher.inFlight.erase ticket } }

/-- A form that is sent holds accepted values, and the dispatcher takes them. -/
theorem submit_of_ok {editor : Editor} {store : Store} {block : RecordId} {values : BlockValues}
    {request : SaveRequest} (sent : (editor.submit store block values).1 = .ok request) :
    ∃ input, values.validate = .ok input ∧
      editor.dispatcher.dispatch store block input =
        .ok (request, (editor.submit store block values).2.dispatcher) := by
  cases accepted : values.validate with
  | error errors => simp [submit, accepted] at sent
  | ok input =>
      cases dispatched : editor.dispatcher.dispatch store block input with
      | error error => simp [submit, accepted, dispatched] at sent
      | ok handed =>
          obtain rfl : handed.1 = request := by simpa [submit, accepted, dispatched] using sent
          refine ⟨input, rfl, ?_⟩
          simp only [submit, accepted, dispatched]
          rfl

/-- A saved block leaves its edit mode and loses its form. -/
theorem complete_of_saved {editor : Editor} {cache middle : Cache} {ticket : Nat}
    {request : SaveRequest} {result : ApiResult Json} {saved : RecordId}
    (standing : editor.dispatcher.inFlight[ticket]? = some request)
    (finishes : Dispatcher.finish cache request result = (.saved request.block saved, middle)) :
    editor.complete cache ticket result = .ok (.saved request.block saved,
      ((editor.settle ticket).dropForm request.block).dropForm saved,
      (middle.update (editModeEdit saved false)).2) := by
  rw [complete, Dispatcher.complete_of_found standing, finishes]
  rfl

/-- The edit mode of a stored block can be switched, which opens or drops its form. -/
theorem setEditMode_of_stored (editor : Editor) {cache : Cache} {block : RecordId}
    {record : Record} (stored : cache.read block = some record) (on : Bool) :
    (editor.setEditMode cache block on).1 = .ok () ∧
      (editor.setEditMode cache block on).2.1 =
        if on then editor.openForm block record else editor.dropForm block := by
  have present : cache.draft.get? block = some record := (Draft.get?_start ..).trans stored
  have done := (Cache.wrote_of_ok (Edit.run_setField_of_present Field.editMode
    (.scalar (.bool on)) present) rfl).1
  rw [setEditMode, stored]
  dsimp only
  rw [editModeEdit, show cache.update _ = (_, _) from Prod.ext done rfl]
  exact ⟨rfl, rfl⟩

/-- Switching the edit mode fails, or opens or drops the form of a stored block. -/
theorem setEditMode_cases (editor : Editor) (cache : Cache) (block : RecordId) (on : Bool) :
    let switched := editor.setEditMode cache block on
    (∃ error, switched.1 = .error error ∧ switched.2.1 = editor) ∨
      ∃ record, cache.read block = some record ∧ switched.1 = .ok () ∧
        switched.2.1 = if on then editor.openForm block record else editor.dropForm block := by
  intro switched
  cases stored : cache.read block with
  | none => exact .inl ⟨.unknownBlock block, by simp [switched, setEditMode, stored]⟩
  | some record => exact .inr ⟨record, rfl, editor.setEditMode_of_stored stored on⟩

end Editor

end RealmDesk
