import RealmDesk.Proofs.Store.Changes
import RealmDesk.Proofs.Store.Update

/-!
# Exactness of the garbage collection

What `unreached` leaves over is what no chain of links leads to. So a collection keeps exactly the
reachable records, and a record that it keeps links to no record that it evicts.
-/

namespace RealmDesk

namespace Records

theorem getElem?_erase_of_ne (records : Records) {id other : RecordId} (different : other ≠ id) :
    (records.erase id)[other]? = records[other]? := by
  simp [Std.ExtTreeMap.getElem?_erase, different.symm]

private theorem mem_roots_of_reaches {records : Records} {roots : List RecordId} {id : RecordId}
    (reached : Reaches records roots id) (absent : firstStored? records roots = none) :
    id ∈ roots := by
  induction reached with
  | root member => exact member
  | link _ stored _ induction =>
      have missing := List.findSome?_eq_none_iff.mp absent _ induction
      simp [stored] at missing

/-- Taking a reachable record out, and its links in, makes nothing else reachable. -/
private theorem reaches_of_expanded {records : Records} {roots : List RecordId}
    {taken id : RecordId} {record : Record} (root : taken ∈ roots)
    (present : records[taken]? = some record)
    (reached : Reaches (records.erase taken) (record.targets ++ roots) id) :
    Reaches records roots id := by
  induction reached with
  | root member =>
      rcases List.mem_append.mp member with linked | member
      · exact .link (.root root) present linked
      · exact .root member
  | link _ stored linked induction =>
      refine .link induction ?_ linked
      rw [Std.ExtTreeMap.getElem?_erase] at stored
      split at stored
      · cases stored
      · exact stored

/-- Taking a reachable record out, and its links in, leaves everything reachable. -/
private theorem expanded_of_reaches {records : Records} {roots : List RecordId}
    {taken id : RecordId} {record : Record} (present : records[taken]? = some record)
    (reached : Reaches records roots id) :
    Reaches (records.erase taken) (record.targets ++ roots) id := by
  induction reached with
  | root member => exact .root (List.mem_append_right _ member)
  | @link source target found _ stored linked induction =>
      by_cases same : source = taken
      · subst same
        obtain rfl := Option.some.inj (present.symm.trans stored)
        exact .root (List.mem_append_left _ linked)
      · exact .link induction ((getElem?_erase_of_ne records same).trans stored) linked

theorem getElem?_unreached (left : Records) (pending : List RecordId) (id : RecordId) :
    (Reaches left pending id → (left.unreached pending)[id]? = none) ∧
      (¬Reaches left pending id → (left.unreached pending)[id]? = left[id]?) := by
  induction left, pending using unreached.induct with
  | case1 left pending absent =>
      rw [unreached, absent]
      refine ⟨fun reached => ?_, fun _ => rfl⟩
      have member := mem_roots_of_reaches reached absent
      simpa using List.findSome?_eq_none_iff.mp absent id member
  | case2 left pending taken record found induction =>
      obtain ⟨root, present⟩ := stored_of_firstStored? found
      rw [unreached, found]
      refine ⟨fun reached => induction.1 (expanded_of_reaches present reached), fun unreached => ?_⟩
      have different : id ≠ taken := fun same => unreached (same ▸ .root root)
      rw [induction.2 fun reached => unreached (reaches_of_expanded root present reached),
        getElem?_erase_of_ne left different]

end Records

namespace Store

theorem mem_roots {store : Store} {id : RecordId} :
    id ∈ store.roots ↔
      (∃ (token : Nat) (roots : List RecordId),
        store.retained[token]? = some roots ∧ id ∈ roots) ∨
      ∃ (number : Nat) (subscription : Subscription),
        store.subscriptions[number]? = some subscription ∧ subscription.record = id := by
  rw [roots, List.mem_append, List.mem_flatten, List.mem_map]
  constructor
  · rintro (⟨roots, live, root⟩ | ⟨subscription, live, same⟩)
    · obtain ⟨token, live⟩ := mem_values.mp live
      exact .inl ⟨token, roots, live, root⟩
    · obtain ⟨number, live⟩ := mem_values.mp live
      exact .inr ⟨number, subscription, live, same⟩
  · rintro (⟨token, roots, live, root⟩ | ⟨number, subscription, live, same⟩)
    · exact .inl ⟨roots, mem_values.mpr ⟨token, live⟩, root⟩
    · exact .inr ⟨subscription, mem_values.mpr ⟨number, live⟩, same⟩

open Classical in
/-- A collection keeps the reachable records and evicts all others. -/
theorem getElem?_collectGarbage (store : Store) (id : RecordId) :
    store.collectGarbage.2.records[id]? =
      if Records.Reaches store.records store.roots id then store.records[id]? else none := by
  obtain ⟨kept, evicted⟩ := Records.getElem?_unreached store.records store.roots id
  simp only [collectGarbage, Records.without, garbage, Std.ExtTreeMap.getElem?_filter',
    Std.ExtTreeMap.contains_eq_isSome_getElem?]
  split
  case isTrue reached =>
    rw [kept reached]
    cases store.records[id]? <;> rfl
  case isFalse unreached =>
    rw [evicted unreached]
    cases store.records[id]? <;> simp

theorem getElem?_of_collectGarbage {store : Store} {id : RecordId} {record : Record}
    (survived : store.collectGarbage.2.records[id]? = some record) :
    store.records[id]? = some record ∧ Records.Reaches store.records store.roots id := by
  rw [getElem?_collectGarbage] at survived
  split at survived
  case isTrue reached => exact ⟨survived, reached⟩
  case isFalse => cases survived

theorem getElem?_collectGarbage_of_root {store : Store} {id : RecordId} (root : id ∈ store.roots) :
    store.collectGarbage.2.records[id]? = store.records[id]? := by
  rw [getElem?_collectGarbage, if_pos (.root root)]

/-- What a surviving record links to stays as it is in a collection. -/
theorem getElem?_collectGarbage_of_linked {store : Store} {id target : RecordId}
    {record : Record} (survived : store.collectGarbage.2.records[id]? = some record)
    (linked : target ∈ record.targets) :
    store.collectGarbage.2.records[target]? = store.records[target]? := by
  obtain ⟨stored, reached⟩ := getElem?_of_collectGarbage survived
  rw [getElem?_collectGarbage, if_pos (.link reached stored linked)]

end Store

/-- A cache that differs from an earlier one in who keeps records alive, and in that records may be
gone which no remaining record links to. -/
structure Cache.Tidied (before after : Cache) : Prop where
  /-- The remaining records are old ones. -/
  kept : ∀ {id : RecordId} {record : Record}, after.store.records[id]? = some record →
    before.store.records[id]? = some record
  /-- What a remaining record links to is as it was. -/
  linked : ∀ {id target : RecordId} {record : Record},
    after.store.records[id]? = some record → target ∈ record.targets →
      after.store.records[target]? = before.store.records[target]?
  /-- No pending id was given out. -/
  lastPending : after.store.lastPending = before.store.lastPending
  /-- Nothing was published. -/
  journal : after.journal = before.journal

namespace Cache.Tidied

variable {before middle after : Cache}

theorem of_records (records : after.store.records = before.store.records)
    (lastPending : after.store.lastPending = before.store.lastPending)
    (journal : after.journal = before.journal) : before.Tidied after :=
  ⟨fun found => records ▸ found, fun _ _ => by rw [records], lastPending, journal⟩

theorem refl (cache : Cache) : cache.Tidied cache :=
  of_records rfl rfl rfl

theorem trans (first : before.Tidied middle) (second : middle.Tidied after) :
    before.Tidied after := by
  refine ⟨fun found => first.kept (second.kept found), fun found member => ?_,
    second.lastPending.trans first.lastPending, second.journal.trans first.journal⟩
  exact (second.linked found member).trans (first.linked (second.kept found) member)

theorem collectGarbage (cache : Cache) : cache.Tidied cache.collectGarbage.2 :=
  ⟨fun found => (Store.getElem?_of_collectGarbage found).1,
    fun found member => Store.getElem?_collectGarbage_of_linked found member, rfl, rfl⟩

theorem retain (cache : Cache) (roots : List RecordId) : cache.Tidied (cache.retain roots).2 :=
  of_records rfl rfl rfl

theorem release (cache : Cache) (token : Nat) : cache.Tidied (cache.release token).2 :=
  of_records rfl rfl rfl

theorem view_eq (tidied : before.Tidied after) {id : RecordId}
    (present : (after.store.records.view id).isSome) :
    after.store.records.view id = before.store.records.view id := by
  rw [Records.view, Option.isSome_map] at present
  obtain ⟨record, found⟩ := Option.isSome_iff_exists.mp present
  rw [Records.view, Records.view, found, tidied.kept found]

theorem linksTo (tidied : before.Tidied after) {source target : RecordId} {field : String}
    (linked : after.store.records.view.LinksTo source field target) :
    before.store.records.view.LinksTo source field target := by
  have present := linked.isSome
  obtain ⟨record, found, linked⟩ := linked
  exact ⟨record, (tidied.view_eq present).symm.trans found, linked⟩

theorem isSome_of_linksTo (tidied : before.Tidied after) {source target : RecordId}
    {field : String} (linked : after.store.records.view.LinksTo source field target)
    (present : (before.store.records.view target).isSome) :
    (after.store.records.view target).isSome := by
  obtain ⟨record, found, linked⟩ := linked
  obtain ⟨stored, standing, rfl⟩ := Option.map_eq_some_iff.mp found
  have member := Record.mem_targets.mpr ⟨field, Record.linksTo_unsignedZeros.mp linked⟩
  rwa [Records.view, tidied.linked standing member]

end Cache.Tidied

end RealmDesk
