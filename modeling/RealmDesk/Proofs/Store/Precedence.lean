import Mathlib.Data.List.Induction
import RealmDesk.Proofs.Store.Telling

/-!
# Which occurrence counts

A snapshot may have any number of records for an id. To merge it is to merge the records of each id,
one after the other, over the one that was there: the last type counts, and of each field the last
value. Hence a snapshot that is merged a second time changes nothing, and two snapshots merged after
each other come to what both make together.
-/

namespace RealmDesk

namespace Snapshot

/-- The records that a snapshot has for an id, in their order. -/
def occurrences (snapshot : Snapshot) (id : RecordId) : List Record :=
  snapshot.entries.filterMap fun entry => if entry.1 = id then some entry.2 else none

/-- The value of a field in the last occurrence of an id that has the field. -/
def lastValue? (snapshot : Snapshot) (id : RecordId) (field : String) : Option FieldValue :=
  (snapshot.occurrences id).reverse.findSome? (·.get? field)

theorem occurrences_cons (entry : RecordId × Record) (entries : List (RecordId × Record))
    (id : RecordId) :
    occurrences ⟨entry :: entries⟩ id =
      if entry.1 = id then entry.2 :: occurrences ⟨entries⟩ id else occurrences ⟨entries⟩ id := by
  rw [occurrences, List.filterMap_cons]
  split <;> simp_all [occurrences]

/-- The records of one snapshot before those of another. -/
instance : Append Snapshot :=
  ⟨fun first second => ⟨first.entries ++ second.entries⟩⟩

end Snapshot

namespace Store

/-- What merging a snapshot makes of a store. Zero and negative zero are not told apart. -/
structure Merged (before after : Store) (snapshot : Snapshot) : Prop where
  /-- An id that the snapshot names has a record with the type of its last occurrence. A field has
  the value of the last occurrence that has it, and its old value if there is none. -/
  named : ∀ id last, (snapshot.occurrences id).getLast? = some last →
    ∃ record, after.read id = some record ∧ record.typeTag = last.typeTag ∧
      ∀ field, (record.get? field).map FieldValue.unsignedZeros =
        ((snapshot.lastValue? id field).or ((before.read id).bind (·.get? field))).map
          FieldValue.unsignedZeros
  /-- The record of any other id is left as it is. -/
  unnamed : ∀ id, snapshot.occurrences id = [] → after.read id = before.read id
  /-- No record is deleted. -/
  kept : ∀ id, before.contains id → after.contains id
  /-- Nothing else of the store changes. -/
  rest : after = { before with records := after.records }

/-- The same store: zero and negative zero are not told apart in its records. -/
structure Same (left right : Store) : Prop where
  /-- The records are the same. -/
  records : left.records.Same right.records
  /-- Everything else is equal. -/
  rest : left = { right with records := left.records }

end Store

namespace Record

/-- Some records merged one after the other, over one that may be there. -/
def pile (below : Option Record) (records : List Record) : Option Record :=
  records.foldl (fun below incoming => some (below.elim incoming (·.merge incoming))) below

variable {below left right : Option Record} {records : List Record}

theorem pile_snoc (below : Option Record) (records : List Record) (last : Record) :
    pile below (records ++ [last]) = some ((pile below records).elim last (·.merge last)) := by
  rw [pile, List.foldl_append, ← pile]
  rfl

theorem map_typeTag_pile (below : Option Record) (records : List Record) :
    (pile below records).map typeTag = (records.getLast?.map typeTag).or (below.map typeTag) := by
  cases records using List.reverseRecOn with
  | nil => rfl
  | append_singleton records last =>
      rw [pile_snoc, List.getLast?_append]
      cases pile below records <;> rfl

theorem bind_get?_pile (below : Option Record) (records : List Record) (field : String) :
    (pile below records).bind (·.get? field) =
      (records.reverse.findSome? (·.get? field)).or (below.bind (·.get? field)) := by
  induction records using List.reverseRecOn with
  | nil => rfl
  | append_singleton records last induction =>
      rw [pile_snoc, List.reverse_append, List.findSome?_append, Option.or_assoc, ← induction]
      cases pile below records <;> simp

theorem eq_of_map_of_bind (tags : left.map typeTag = right.map typeTag)
    (fields : ∀ field, left.bind (·.get? field) = right.bind (·.get? field)) : left = right := by
  cases left with
  | none => exact (Option.map_eq_none_iff.mp tags.symm).symm
  | some left =>
      cases right with
      | none => cases tags
      | some right => exact congrArg some (eq_of_get? (Option.some.inj tags) fields)

/-- A second time the same records make no difference. -/
theorem pile_pile (below : Option Record) (records : List Record) :
    pile (pile below records) records = pile below records := by
  apply eq_of_map_of_bind
  · rw [map_typeTag_pile, map_typeTag_pile, ← Option.or_assoc, Option.or_self]
  · intro field
    rw [bind_get?_pile, bind_get?_pile, ← Option.or_assoc, Option.or_self]

end Record

namespace View

variable {view : View} {snapshot : Snapshot} {id : RecordId}

/-- Each id gets the records that the snapshot has for it. -/
theorem mergeSnapshot_eq_pile (view : View) (snapshot : Snapshot) (id : RecordId) :
    view.mergeSnapshot snapshot id =
      Record.pile (view id) ((snapshot.occurrences id).map Record.unsignedZeros) := by
  obtain ⟨entries⟩ := snapshot
  induction entries generalizing view with
  | nil => rfl
  | cons entry entries induction =>
      rw [mergeSnapshot_cons, induction, Snapshot.occurrences_cons]
      by_cases same : entry.1 = id
      · rw [if_pos same, ← same, merge, Function.update_self]
        rfl
      · rw [if_neg same, merge_of_ne view _ (Ne.symm same)]

theorem mergeSnapshot_mergeSnapshot (view : View) (snapshot : Snapshot) :
    (view.mergeSnapshot snapshot).mergeSnapshot snapshot = view.mergeSnapshot snapshot := by
  funext id
  simp only [mergeSnapshot_eq_pile, Record.pile_pile]

theorem mergeSnapshot_append (view : View) (first second : Snapshot) :
    view.mergeSnapshot (first ++ second) = (view.mergeSnapshot first).mergeSnapshot second :=
  List.foldl_append

theorem exists_of_mergeSnapshot (view : View) {last : Record}
    (named : (snapshot.occurrences id).getLast? = some last) :
    ∃ record, view.mergeSnapshot snapshot id = some record ∧ record.typeTag = last.typeTag ∧
      ∀ field, record.get? field =
        ((snapshot.lastValue? id field).map FieldValue.unsignedZeros).or
          ((view id).bind (·.get? field)) := by
  have merged := mergeSnapshot_eq_pile view snapshot id
  have tags := Record.map_typeTag_pile (view id)
    ((snapshot.occurrences id).map Record.unsignedZeros)
  rw [← merged, List.getLast?_map, named] at tags
  obtain ⟨record, shown, tag⟩ := Option.map_eq_some_iff.mp tags
  refine ⟨record, shown, tag, ?_⟩
  intro field
  have values := Record.bind_get?_pile (view id)
    ((snapshot.occurrences id).map Record.unsignedZeros) field
  rw [← merged, shown, ← List.map_reverse, List.findSome?_map] at values
  rw [Snapshot.lastValue?, List.map_findSome?]
  refine values.trans (congrArg (Option.or · _) ?_)
  congr 1
  funext record
  exact record.get?_unsignedZeros field

end View

namespace Store

variable {store : Store} {snapshot : Snapshot}

theorem view_applySnapshot (store : Store) (snapshot : Snapshot) :
    (store.applySnapshot snapshot).1.records.view = store.records.view.mergeSnapshot snapshot := by
  have wrote := (Cache.wrote_applySnapshot { store } snapshot).view
  rwa [Cache.applySnapshot, Cache.store_publish] at wrote

theorem rest_applySnapshot (store : Store) (snapshot : Snapshot) :
    (store.applySnapshot snapshot).1 =
      { store with records := (store.applySnapshot snapshot).1.records } := by
  have wrote := (Cache.wrote_applySnapshot { store } snapshot).rest
  rwa [Cache.applySnapshot, Cache.store_publish] at wrote

/-- A snapshot that shows nothing new changes nothing. -/
theorem applySnapshot_of_view
    (same : store.records.view.mergeSnapshot snapshot = store.records.view) :
    store.applySnapshot snapshot = (store, .empty) := by
  let edit : Edit Empty Unit := Edit.mergeSnapshot snapshot
  obtain ⟨records, commit⟩ :=
    update_of_same edit ((view_applySnapshot store snapshot).trans same)
  refine Prod.ext ?_ commit
  rw [rest_applySnapshot]
  exact congrArg (fun records => { store with records }) records

theorem merged_applySnapshot (store : Store) (snapshot : Snapshot) :
    store.Merged (store.applySnapshot snapshot).1 snapshot := by
  have shown := view_applySnapshot store snapshot
  constructor
  case named =>
    intro id last named
    obtain ⟨merged, found, tag, values⟩ := store.records.view.exists_of_mergeSnapshot named
    rw [← shown] at found
    obtain ⟨record, stored, rfl⟩ := Option.map_eq_some_iff.mp found
    refine ⟨record, stored, tag, ?_⟩
    intro field
    have below : (store.records.view id).bind (·.get? field) =
        ((store.read id).bind (·.get? field)).map FieldValue.unsignedZeros := by
      rw [Records.view, ← read]
      cases store.read id <;> simp
    rw [← Record.get?_unsignedZeros, values, below, Option.map_or]
  case unnamed =>
    intro id unnamed
    apply getElem?_update_of_unchanged
    rw [mem_changes_update_iff, not_not]
    refine Eq.trans ?_ (congrFun shown id).symm
    rw [View.mergeSnapshot_eq_pile, unnamed]
    rfl
  case kept =>
    intro id stored
    apply Records.isSome_view.mp
    rw [shown, View.isSome_mergeSnapshot]
    exact .inl (Records.isSome_view.mpr stored)
  case rest => exact rest_applySnapshot store snapshot

/-- The last occurrence of an id in a snapshot counts. A snapshot that is merged again changes
nothing, and tells nobody; and to merge two snapshots one after the other is to merge the records of
both at once. -/
theorem last_occurrence_counts (store : Store) (snapshot : Snapshot) :
    let after := (store.applySnapshot snapshot).1
    store.Merged after snapshot ∧
      after.applySnapshot snapshot = (after, .empty) ∧
      ∀ later, (after.applySnapshot later).1.Same (store.applySnapshot (snapshot ++ later)).1 := by
  intro after
  refine ⟨merged_applySnapshot store snapshot, ?_, ?_⟩
  · apply applySnapshot_of_view
    rw [view_applySnapshot, View.mergeSnapshot_mergeSnapshot]
  · intro later
    constructor
    case records =>
      rw [Records.same_iff_view, view_applySnapshot, view_applySnapshot, view_applySnapshot,
        View.mergeSnapshot_append]
    case rest =>
      rw [rest_applySnapshot after, rest_applySnapshot store (snapshot ++ later)]
      exact congrArg (fun before : Store => { before with
        records := (after.applySnapshot later).1.records }) (rest_applySnapshot store snapshot)

end Store

end RealmDesk
