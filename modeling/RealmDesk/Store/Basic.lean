import RealmDesk.Store.Commit
import RealmDesk.Store.Draft
import RealmDesk.Store.Reach

/-!
# The record store

The store keeps every record once, under its id. Records are changed by local updates, which land
as a whole or not at all, and by merging snapshots of the server; both tell by a commit what they
changed. Retained roots and subscriptions keep records alive: a garbage collection evicts every
record that no chain of links leads to from them.
-/

namespace RealmDesk

/-- The records with everything that is known about their use. -/
structure Store where
  /-- The records. -/
  records : Records := ∅
  /-- The subscriptions by their numbers. -/
  subscriptions : Std.ExtTreeMap Nat Subscription := ∅
  /-- The retained roots by the numbers of their tokens. -/
  retained : Std.ExtTreeMap Nat (List RecordId) := ∅
  /-- The number of the latest subscription. -/
  lastSubscription : Nat := 0
  /-- The number of the latest token. -/
  lastToken : Nat := 0
  /-- The number of the latest pending id. -/
  lastPending : Nat := 0
deriving DecidableEq

/-- The result of a local update. -/
structure Update (ε α : Type) where
  /-- What the update returned, or why it failed. -/
  result : Except ε α
  /-- The store after it. -/
  store : Store
  /-- What it changed. -/
  commit : Commit

namespace Store

/-- A store without records. -/
def empty : Store := {}

instance : Inhabited Store := ⟨empty⟩

/-- The record with an id. -/
def read (store : Store) (id : RecordId) : Option Record :=
  store.records[id]?

/-- Whether there is a record with an id. -/
def contains (store : Store) (id : RecordId) : Bool :=
  store.records.contains id

/-- The ids of the records whose field links to an id, in the order of ids. -/
def referrers (store : Store) (id : RecordId) (field : String) : List RecordId :=
  (store.records.toList.filter fun entry =>
    (entry.2.get? field).any fun value => value.targets.contains id).map (·.1)

/-- How the staged record of an id changes the store, if it does. -/
def change? (store : Store) (id : RecordId) (next : Option Record) : Option RecordChange :=
  RecordChange.of? store.records[id]? next

/-- The changes that staged records make. -/
def changes (store : Store) (staged : Std.ExtTreeMap RecordId (Option Record)) :
    Std.ExtTreeMap RecordId RecordChange :=
  staged.filterMap fun id next => store.change? id next

/-- Writes one staged record. A record that is the same stays as it is. -/
def land (store : Store) (records : Records) (id : RecordId) (next : Option Record) : Records :=
  match store.change? id next, next with
  | none, _ => records
  | some _, some record => records.insert id record
  | some _, none => records.erase id

/-- Writes the staged records that change something. -/
def landed (store : Store) (staged : Std.ExtTreeMap RecordId (Option Record)) : Records :=
  staged.foldl store.land store.records

/-- Runs a local update. Its staged records land together if it succeeds, and nothing changes but
the number of the latest pending id if it fails. -/
def update {ε α : Type} (store : Store) (edit : Edit ε α) : Update ε α :=
  let (result, draft) := edit.run (Draft.start store.records store.lastPending)
  let counted := { store with lastPending := draft.lastPending }
  match result with
  | .ok value =>
      { result := .ok value
        store := { counted with records := store.landed draft.staged }
        commit := .of (store.changes draft.staged) store.subscriptions }
  | .error error => { result := .error error, store := counted, commit := .empty }

/-- Merges a snapshot. Fields that it does not name keep their values. -/
def applySnapshot (store : Store) (snapshot : Snapshot) : Store × Commit :=
  let written := store.update (Edit.mergeSnapshot (ε := Empty) snapshot)
  (written.store, written.commit)

/-- Adds a subscription and returns its number. -/
def subscribe (store : Store) (record : RecordId) (selection : FieldSelection) : Nat × Store :=
  let number := store.lastSubscription + 1
  (number, { store with
    subscriptions := store.subscriptions.insert number ⟨record, selection⟩
    lastSubscription := number })

/-- Ends a subscription; tells whether there was one. -/
def unsubscribe (store : Store) (number : Nat) : Bool × Store :=
  (store.subscriptions.contains number,
    { store with subscriptions := store.subscriptions.erase number })

/-- Retains roots and returns the number of their token. -/
def retain (store : Store) (roots : List RecordId) : Nat × Store :=
  let number := store.lastToken + 1
  (number, { store with
    retained := store.retained.insert number roots
    lastToken := number })

/-- Gives up retained roots; tells whether the token was still held. -/
def release (store : Store) (token : Nat) : Bool × Store :=
  (store.retained.contains token, { store with retained := store.retained.erase token })

/-- The ids that keep records alive. -/
def roots (store : Store) : List RecordId :=
  store.retained.values.flatten ++ store.subscriptions.values.map (·.record)

/-- The records that nothing keeps alive. -/
def garbage (store : Store) : Records :=
  store.records.unreached store.roots

/-- Evicts the records that nothing keeps alive and returns their ids in the order of ids. -/
def collectGarbage (store : Store) : List RecordId × Store :=
  (store.garbage.keys, { store with records := store.records.without store.garbage })

end Store

end RealmDesk
