import RealmDesk.Proofs.Store.Garbage

/-!
# What a garbage collection evicts

A live token keeps its roots alive, a subscription its record, and a stored record that is kept
alive whatever it links to. A garbage collection evicts exactly the records that nothing keeps
alive. What kept the others alive is still there afterwards, so another collection evicts nothing.
-/

namespace RealmDesk

namespace Store

/-- Something keeps an id alive. There need not be a record with the id. -/
inductive Alive (store : Store) : RecordId → Prop where
  /-- It is a root of a live token. -/
  | retained {token : Nat} {roots : List RecordId} {id : RecordId}
      (live : store.retained[token]? = some roots) (root : id ∈ roots) : Alive store id
  /-- It is subscribed to. -/
  | subscribed {number : Nat} {subscription : Subscription}
      (live : store.subscriptions[number]? = some subscription) : Alive store subscription.record
  /-- A stored record that is kept alive links to it. -/
  | linked {source target : RecordId} {record : Record} (alive : Alive store source)
      (stored : store.records[source]? = some record) (linked : target ∈ record.targets) :
      Alive store target

variable {store : Store} {id : RecordId}

theorem alive_iff_reaches : store.Alive id ↔ Records.Reaches store.records store.roots id := by
  constructor
  · intro alive
    induction alive with
    | retained live root => exact .root (mem_roots.mpr (.inl ⟨_, _, live, root⟩))
    | subscribed live => exact .root (mem_roots.mpr (.inr ⟨_, _, live, rfl⟩))
    | linked _ stored linked induction => exact .link induction stored linked
  · intro reached
    induction reached with
    | root member =>
        rcases mem_roots.mp member with ⟨token, roots, live, root⟩ | ⟨number, _, live, rfl⟩
        · exact .retained live root
        · exact .subscribed live
    | link _ stored linked induction => exact .linked induction stored linked

theorem getElem?_garbage_of_alive (alive : store.Alive id) : store.garbage[id]? = none :=
  (Records.getElem?_unreached store.records store.roots id).1 (alive_iff_reaches.mp alive)

theorem getElem?_garbage_of_not_alive (dead : ¬store.Alive id) :
    store.garbage[id]? = store.records[id]? :=
  (Records.getElem?_unreached store.records store.roots id).2
    fun reached => dead (alive_iff_reaches.mpr reached)

theorem mem_garbage : id ∈ store.garbage ↔ id ∈ store.records ∧ ¬store.Alive id := by
  rw [Std.ExtTreeMap.mem_iff_isSome_getElem?, Std.ExtTreeMap.mem_iff_isSome_getElem?]
  by_cases alive : store.Alive id
  · rw [getElem?_garbage_of_alive alive]
    exact ⟨nofun, fun both => absurd alive both.2⟩
  · rw [getElem?_garbage_of_not_alive alive]
    exact ⟨fun stored => ⟨stored, alive⟩, And.left⟩

theorem getElem?_collectGarbage_of_alive (alive : store.Alive id) :
    store.collectGarbage.2.records[id]? = store.records[id]? := by
  rw [getElem?_collectGarbage, if_pos (alive_iff_reaches.mp alive)]

theorem getElem?_collectGarbage_of_not_alive (dead : ¬store.Alive id) :
    store.collectGarbage.2.records[id]? = none := by
  rw [getElem?_collectGarbage, if_neg fun reached => dead (alive_iff_reaches.mpr reached)]

/-- A collection takes nothing away that keeps an id alive. -/
theorem Alive.collectGarbage (alive : store.Alive id) : store.collectGarbage.2.Alive id := by
  induction alive with
  | retained live root => exact .retained live root
  | subscribed live => exact .subscribed live
  | linked alive stored linked induction =>
      exact .linked induction ((getElem?_collectGarbage_of_alive alive).trans stored) linked

theorem alive_of_mem_collectGarbage (survived : id ∈ store.collectGarbage.2.records) :
    store.collectGarbage.2.Alive id := by
  by_cases alive : store.Alive id
  · exact alive.collectGarbage
  · rw [Std.ExtTreeMap.mem_iff_isSome_getElem?, getElem?_collectGarbage_of_not_alive alive]
      at survived
    cases survived

theorem collectGarbage_of_alive (alive : ∀ id ∈ store.records, store.Alive id) :
    store.collectGarbage = ([], store) := by
  have none : store.garbage = ∅ := by
    rw [Std.ExtTreeMap.eq_empty_iff_forall_not_mem]
    intro id garbage
    obtain ⟨stored, dead⟩ := mem_garbage.mp garbage
    exact dead (alive id stored)
  have kept : store.collectGarbage.2.records = store.records := by
    apply Std.ExtTreeMap.ext_getElem?
    intro id
    by_cases stored : id ∈ store.records
    · exact getElem?_collectGarbage_of_alive (alive id stored)
    · have absent : store.records[id]? = .none := Std.ExtTreeMap.getElem?_eq_none stored
      rw [getElem?_collectGarbage, absent, ite_self]
  refine Prod.ext ?_ ?_
  · rw [collectGarbage, none]
    rfl
  · exact congrArg (fun records => { store with records }) kept

/-- A garbage collection is exact. It evicts the records that nothing keeps alive, and returns their
ids in ascending order, each once. All other records stay as they are, with the tokens and the
subscriptions; none of them links to an evicted record; and another collection evicts nothing. -/
theorem collectGarbage_exact (store : Store) :
    let evicted := store.collectGarbage.1
    let after := store.collectGarbage.2
    (∀ id, id ∈ evicted ↔ id ∈ store.records ∧ ¬store.Alive id) ∧
      (evicted.Pairwise fun earlier later => compare earlier later = .lt) ∧
      (∀ id ∈ evicted, after.records[id]? = none) ∧
      (∀ id, id ∉ evicted → after.records[id]? = store.records[id]?) ∧
      after = { store with records := after.records } ∧
      (∀ (id target : RecordId) (record : Record), after.records[id]? = some record →
        target ∈ record.targets → target ∉ evicted) ∧
      after.collectGarbage = ([], after) := by
  intro evicted after
  have mem_evicted (id : RecordId) : id ∈ evicted ↔ id ∈ store.records ∧ ¬store.Alive id :=
    Std.ExtTreeMap.mem_keys.trans mem_garbage
  refine ⟨mem_evicted, Std.ExtTreeMap.ordered_keys, ?_, ?_, rfl, ?_, ?_⟩
  · intro id gone
    exact getElem?_collectGarbage_of_not_alive ((mem_evicted id).mp gone).2
  · intro id kept
    by_cases alive : store.Alive id
    · exact getElem?_collectGarbage_of_alive alive
    · have missing : id ∉ store.records := fun stored => kept ((mem_evicted id).mpr ⟨stored, alive⟩)
      rw [Std.ExtTreeMap.getElem?_eq_none missing]
      exact getElem?_collectGarbage_of_not_alive alive
  · intro id target record survived linked gone
    obtain ⟨stored, reached⟩ := getElem?_of_collectGarbage survived
    have alive := alive_iff_reaches.mpr reached
    exact ((mem_evicted target).mp gone).2 (.linked alive stored linked)
  · exact collectGarbage_of_alive fun id survived => alive_of_mem_collectGarbage survived

/-- Two records that link to each other do not keep each other alive. -/
example :
    let named (name : String) : RecordId := .persisted name
    let record (targets : List String) : Record :=
      ⟨"Realm", .ofList [(Field.children, .links (targets.map named))]⟩
    let store : Store := {
      records := .ofList [(named "a", record ["b"]), (named "b", record ["a", "c"]),
        (named "c", record ["c", "d"])]
      retained := .ofList [(1, [named "c", named "e", named "c"])] }
    store.collectGarbage.1 = [named "a", named "b"] := by
  decide +kernel

end Store

end RealmDesk
