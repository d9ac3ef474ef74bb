import RealmDesk.Record.Basic
import RealmDesk.Store.Error

/-!
# Drafts of local updates

A local update works on a draft: the records as they are, under a layer of staged records and
staged deletions. Reading sees the layer first. Nothing below the layer changes while the update
runs, so an update that fails is undone by forgetting its draft. Only the number of the last
pending id outlives a failure, so that an id is never given out twice.
-/

namespace RealmDesk

/-- The records under a layer of staged changes. -/
structure Draft where
  /-- The records before the update. -/
  base : Records
  /-- What is staged for an id: a record, or its deletion. -/
  staged : Std.ExtTreeMap RecordId (Option Record)
  /-- The number of the pending id that was given out last. -/
  lastPending : Nat

namespace Draft

/-- A draft in which nothing is staged. -/
def start (base : Records) (lastPending : Nat) : Draft :=
  ⟨base, ∅, lastPending⟩

/-- The record with an id, staged or not. -/
def get? (draft : Draft) (id : RecordId) : Option Record :=
  match draft.staged[id]? with
  | some staged => staged
  | none => draft.base[id]?

/-- Stages a record, or a deletion. -/
def stage (draft : Draft) (id : RecordId) (next : Option Record) : Draft :=
  { draft with staged := draft.staged.insert id next }

/-- Merges an incoming record into the one with its id, or stages it where there is none. -/
def merge (draft : Draft) (id : RecordId) (incoming : Record) : Draft :=
  match draft.get? id with
  | some record => draft.stage id (some (record.merge incoming))
  | none => draft.stage id (some incoming)

/-- Merges every record of a snapshot, in its order. -/
def mergeSnapshot (draft : Draft) (snapshot : Snapshot) : Draft :=
  snapshot.entries.foldl (fun draft entry => draft.merge entry.1 entry.2) draft

@[simp] theorem get?_start (base : Records) (lastPending : Nat) (id : RecordId) :
    (start base lastPending).get? id = base[id]? := by
  simp [start, get?]

@[simp] theorem get?_stage_self (draft : Draft) (id : RecordId) (next : Option Record) :
    (draft.stage id next).get? id = next := by
  simp [stage, get?]

theorem get?_stage_of_ne (draft : Draft) {id other : RecordId} (next : Option Record)
    (different : id ≠ other) : (draft.stage id next).get? other = draft.get? other := by
  have unequal : compare id other ≠ .eq := fun same =>
    different (Std.LawfulEqOrd.eq_of_compare same)
  simp [stage, get?, Std.ExtTreeMap.getElem?_insert, unequal]

end Draft

/-- A local update that may fail. -/
abbrev Edit (ε α : Type) := ExceptT ε (StateM Draft) α

namespace Edit

/-- The record with an id. -/
def get? {ε : Type} (id : RecordId) : Edit ε (Option Record) := do
  return (← get).get? id

/-- Stages a record, or a deletion. -/
def stage {ε : Type} (id : RecordId) (next : Option Record) : Edit ε Unit :=
  modify fun draft => draft.stage id next

/-- Gives out a pending id that was never given out before. -/
def allocate {ε : Type} : Edit ε RecordId := do
  let draft ← get
  let number := draft.lastPending + 1
  set { draft with lastPending := number }
  return .pending number

/-- Adds a record under an id that no record has. -/
def create (id : RecordId) (record : Record) : Edit StoreError Unit := do
  match ← get? id with
  | some _ => throw (.present id)
  | none => stage id (some record)

/-- The record with an id, which has to be there. -/
def need (id : RecordId) : Edit StoreError Record := do
  match ← get? id with
  | some record => return record
  | none => throw (.missing id)

/-- Sets a field of a record. -/
def setField (id : RecordId) (field : String) (value : FieldValue) : Edit StoreError Unit := do
  let record ← need id
  stage id (some (record.update field value))

/-- The links of a field of a record, none if the field holds no list of links. -/
def links (id : RecordId) (field : String) : Edit StoreError (List RecordId) := do
  return (← need id).links field

/-- Sets a field of a record to a list of links. -/
def setLinks (id : RecordId) (field : String) (targets : List RecordId) :
    Edit StoreError Unit :=
  setField id field (.links targets)

/-- Deletes a record; tells whether there was one. -/
def delete {ε : Type} (id : RecordId) : Edit ε Bool := do
  let present := (← get? id).isSome
  stage id none
  return present

/-- Merges an incoming record. -/
def merge {ε : Type} (id : RecordId) (incoming : Record) : Edit ε Unit :=
  modify fun draft => draft.merge id incoming

/-- Merges a snapshot. -/
def mergeSnapshot {ε : Type} (snapshot : Snapshot) : Edit ε Unit :=
  modify fun draft => draft.mergeSnapshot snapshot

end Edit

end RealmDesk
