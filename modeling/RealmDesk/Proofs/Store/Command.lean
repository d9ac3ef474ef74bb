import RealmDesk.Store.Draft

/-!
# Commands of local updates

What each command of a local update does to a draft. A command that fails leaves the draft as it
was, and a sequence of commands stops at the first one that fails.
-/

namespace RealmDesk

namespace Edit

variable {ε α β : Type}

@[simp] theorem run_throw (error : ε) (draft : Draft) :
    (throw error : Edit ε α).run draft = (.error error, draft) := rfl

theorem run_bind_of_ok {edit : Edit ε α} {draft middle : Draft} {value : α}
    (next : α → Edit ε β) (ran : edit.run draft = (.ok value, middle)) :
    (edit >>= next).run draft = (next value).run middle := by
  change (match edit.run draft with | (result, draft) => ExceptT.bindCont next result draft) = _
  rw [ran]
  rfl

theorem run_bind_of_error {edit : Edit ε α} {draft middle : Draft} {error : ε}
    (next : α → Edit ε β) (ran : edit.run draft = (.error error, middle)) :
    (edit >>= next).run draft = (.error error, middle) := by
  change (match edit.run draft with | (result, draft) => ExceptT.bindCont next result draft) = _
  rw [ran]
  rfl

@[simp] theorem run_get? (id : RecordId) (draft : Draft) :
    (get? id : Edit ε (Option Record)).run draft = (.ok (draft.get? id), draft) := rfl

@[simp] theorem run_stage (id : RecordId) (next : Option Record) (draft : Draft) :
    (stage id next : Edit ε Unit).run draft = (.ok (), draft.stage id next) := rfl

@[simp] theorem run_allocate (draft : Draft) :
    (allocate : Edit ε RecordId).run draft =
      (.ok (.pending (draft.lastPending + 1)),
        { draft with lastPending := draft.lastPending + 1 }) := rfl

@[simp] theorem run_delete (id : RecordId) (draft : Draft) :
    (delete id : Edit ε Bool).run draft = (.ok (draft.get? id).isSome, draft.stage id none) := rfl

@[simp] theorem run_mergeSnapshot (snapshot : Snapshot) (draft : Draft) :
    (mergeSnapshot snapshot : Edit ε Unit).run draft =
      (.ok (), draft.mergeSnapshot snapshot) := rfl

theorem run_create_of_absent {id : RecordId} {draft : Draft} (record : Record)
    (absent : draft.get? id = none) :
    (create id record).run draft = (.ok (), draft.stage id (some record)) := by
  rw [create, run_bind_of_ok _ (run_get? id draft), absent]
  rfl

theorem run_create_of_present {id : RecordId} {draft : Draft} {present : Record}
    (record : Record) (found : draft.get? id = some present) :
    (create id record).run draft = (.error (.present id), draft) := by
  rw [create, run_bind_of_ok _ (run_get? id draft), found]
  rfl

theorem run_need_of_present {id : RecordId} {draft : Draft} {record : Record}
    (found : draft.get? id = some record) :
    (need id).run draft = (.ok record, draft) := by
  rw [need, run_bind_of_ok _ (run_get? id draft), found]
  rfl

theorem run_need_of_absent {id : RecordId} {draft : Draft} (absent : draft.get? id = none) :
    (need id).run draft = (.error (.missing id), draft) := by
  rw [need, run_bind_of_ok _ (run_get? id draft), absent]
  rfl

theorem run_setField_of_present {id : RecordId} {draft : Draft} {record : Record}
    (field : String) (value : FieldValue) (found : draft.get? id = some record) :
    (setField id field value).run draft =
      (.ok (), draft.stage id (some (record.update field value))) := by
  rw [setField, run_bind_of_ok _ (run_need_of_present found), run_stage]

theorem run_setField_of_absent {id : RecordId} {draft : Draft} (field : String)
    (value : FieldValue) (absent : draft.get? id = none) :
    (setField id field value).run draft = (.error (.missing id), draft) := by
  rw [setField, run_bind_of_error _ (run_need_of_absent absent)]

theorem run_setLinks_of_present {id : RecordId} {draft : Draft} {record : Record}
    (field : String) (targets : List RecordId) (found : draft.get? id = some record) :
    (setLinks id field targets).run draft =
      (.ok (), draft.stage id (some (record.update field (.links targets)))) :=
  run_setField_of_present field (.links targets) found

theorem run_links_of_present {id : RecordId} {draft : Draft} {record : Record}
    (field : String) (found : draft.get? id = some record) :
    (links id field).run draft = (.ok (record.links field), draft) := by
  rw [links, run_bind_of_ok _ (run_need_of_present found)]
  rfl

theorem run_links_of_absent {id : RecordId} {draft : Draft} (field : String)
    (absent : draft.get? id = none) :
    (links id field).run draft = (.error (.missing id), draft) := by
  rw [links, run_bind_of_error _ (run_need_of_absent absent)]

end Edit

end RealmDesk
