import RealmDesk.Store.Basic

/-!
# The shared cache

All parts of the desk share one store. Whatever changes records is published: the commit goes to
the subscriptions that are due, which see the records as they are after it. The journal keeps what
was published, in its order.
-/

namespace RealmDesk

/-- A commit that was published, with the records that its listeners see. -/
structure Publication where
  /-- What changed. -/
  commit : Commit
  /-- The records after the change. -/
  records : Records
deriving DecidableEq

/-- What a subscription hears. -/
structure Notice where
  /-- The number of the subscription. -/
  subscription : Nat
  /-- Whether its record is there. -/
  present : Bool
deriving DecidableEq, Inhabited

/-- What the subscriptions that are due hear, in their order. -/
def Publication.notices (publication : Publication) : List Notice :=
  publication.commit.due.map fun due =>
    ⟨due.subscription, publication.records.contains due.record⟩

/-- A store with what was published of it. -/
structure Cache where
  /-- The store. -/
  store : Store := {}
  /-- What was published, oldest first. -/
  journal : List Publication := []
deriving DecidableEq

namespace Cache

instance : Inhabited Cache := ⟨{}⟩

/-- The record with an id. -/
def read (cache : Cache) (id : RecordId) : Option Record :=
  cache.store.read id

/-- Replaces the store and publishes a commit, unless it is empty. -/
def publish (cache : Cache) (store : Store) (commit : Commit) : Cache :=
  if commit.isEmpty then { cache with store }
  else { store, journal := cache.journal ++ [⟨commit, store.records⟩] }

/-- Runs a local update. -/
def update {ε α : Type} (cache : Cache) (edit : Edit ε α) : Except ε α × Cache :=
  let written := cache.store.update edit
  (written.result, cache.publish written.store written.commit)

/-- Merges a snapshot. -/
def applySnapshot (cache : Cache) (snapshot : Snapshot) : Cache :=
  let (store, commit) := cache.store.applySnapshot snapshot
  cache.publish store commit

/-- Adds a subscription and returns its number. -/
def subscribe (cache : Cache) (record : RecordId) (selection : FieldSelection) : Nat × Cache :=
  let (number, store) := cache.store.subscribe record selection
  (number, { cache with store })

/-- Ends a subscription; tells whether there was one. -/
def unsubscribe (cache : Cache) (number : Nat) : Bool × Cache :=
  let (ended, store) := cache.store.unsubscribe number
  (ended, { cache with store })

/-- Retains roots and returns the number of their token. -/
def retain (cache : Cache) (roots : List RecordId) : Nat × Cache :=
  let (token, store) := cache.store.retain roots
  (token, { cache with store })

/-- Gives up retained roots; tells whether the token was still held. -/
def release (cache : Cache) (token : Nat) : Bool × Cache :=
  let (held, store) := cache.store.release token
  (held, { cache with store })

/-- Evicts the records that nothing keeps alive. Nothing is published of it. -/
def collectGarbage (cache : Cache) : List RecordId × Cache :=
  let (evicted, store) := cache.store.collectGarbage
  (evicted, { cache with store })

end Cache

end RealmDesk
