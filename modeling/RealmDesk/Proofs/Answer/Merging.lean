import RealmDesk.Proofs.Answer.Coverage
import RealmDesk.Proofs.Store.Precedence

/-!
# Answers merged at once and entity by entity

An entity that an answer gives several times is merged twice: its occurrences are collected into one
record, and that record is merged into the store. Merging is associative, so the store ends up as if
every occurrence had been merged on its own, in the order in which the reading leaves them. Only the
type could tell the difference, as the first one is collected while the last one is stored; the
occurrences of an entity therefore have to agree about it.
-/

namespace RealmDesk

namespace Record

theorem merge_assoc (first second third : Record) :
    (first.merge second).merge third = first.merge (second.merge third) := by
  refine eq_of_get? rfl fun field => ?_
  simp only [get?_merge, Option.or_assoc]

/-- Records that are merged among themselves first come to the same. -/
theorem pile_toList_pile (below : Option Record) (records : List Record) :
    pile below (pile none records).toList = pile below records := by
  induction records using List.reverseRecOn with
  | nil => rfl
  | append_singleton records last induction =>
      rw [pile_snoc, pile_snoc, ← induction]
      cases pile none records with
      | none => rfl
      | some together =>
          cases below with
          | none => rfl
          | some record => exact congrArg some (record.merge_assoc together last).symm

theorem pile_eq_none_iff {records : List Record} : pile none records = none ↔ records = [] := by
  cases records using List.reverseRecOn with
  | nil => simp [pile]
  | append_singleton records last => simp [pile_snoc]

end Record

namespace Snapshot

variable {entries : List (RecordId × Record)} {id : RecordId}

theorem occurrences_of_distinct (distinct : entries.Pairwise fun left right => left.1 ≠ right.1) :
    occurrences ⟨entries⟩ id = (entries.lookup id).toList := by
  induction entries with
  | nil => rfl
  | cons entry entries induction =>
      obtain ⟨other, record⟩ := entry
      obtain ⟨apart, rest⟩ := List.pairwise_cons.mp distinct
      rw [occurrences_cons, induction rest]
      by_cases same : other = id
      · subst same
        have alone : entries.lookup other = none :=
          List.lookup_eq_none_iff.mpr fun entry listed => bne_iff_ne.mpr (apart entry listed)
        simp [alone]
      · rw [if_neg same, List.lookup_cons, beq_eq_false_iff_ne.mpr (Ne.symm same)]

theorem occurrences_snoc (entries : List (RecordId × Record)) (last : RecordId × Record)
    (id : RecordId) :
    occurrences ⟨entries ++ [last]⟩ id =
      if last.1 = id then occurrences ⟨entries⟩ id ++ [last.2] else occurrences ⟨entries⟩ id := by
  rw [occurrences, List.filterMap_append]
  split <;> simp_all [occurrences]

end Snapshot

namespace Draft

variable {left right : Snapshot}

theorem eq_of_getElem?_staged {left right : Draft} (base : left.base = right.base)
    (counter : left.lastPending = right.lastPending)
    (staged : ∀ id : RecordId, left.staged[id]? = right.staged[id]?) : left = right := by
  obtain ⟨_, _, _⟩ := left
  obtain ⟨_, _, _⟩ := right
  have layers := Std.ExtTreeMap.ext_getElem? staged
  simp_all

/-- Each id that a snapshot names is staged with the records that the snapshot has for it. -/
theorem getElem?_staged_mergeSnapshot (draft : Draft) (snapshot : Snapshot) (id : RecordId) :
    (draft.mergeSnapshot snapshot).staged[id]? =
      if snapshot.occurrences id = [] then draft.staged[id]?
      else some (Record.pile (draft.get? id) (snapshot.occurrences id)) := by
  obtain ⟨entries⟩ := snapshot
  induction entries generalizing draft with
  | nil => rfl
  | cons entry entries induction =>
      change ((draft.merge entry.1 entry.2).mergeSnapshot ⟨entries⟩).staged[id]? = _
      rw [induction, merge_eq_stage, Snapshot.occurrences_cons]
      by_cases same : entry.1 = id
      · subst same
        rw [get?_stage_self, if_pos rfl, if_neg (List.cons_ne_nil _ _)]
        split
        case isTrue none => simp [none, stage, Record.pile]
        case isFalse => rfl
      · rw [if_neg same, get?_stage_of_ne draft _ same]
        simp [stage, Std.ExtTreeMap.getElem?_insert, same]

/-- Snapshots make the same of a draft if one has for each id what the other has for it, merged. -/
theorem mergeSnapshot_eq_of_piled (draft : Draft)
    (piled : ∀ id, left.occurrences id = (Record.pile none (right.occurrences id)).toList) :
    draft.mergeSnapshot left = draft.mergeSnapshot right := by
  obtain ⟨leftBase, leftCounter, -⟩ := draft.mergeSnapshot_frame left
  obtain ⟨rightBase, rightCounter, -⟩ := draft.mergeSnapshot_frame right
  apply eq_of_getElem?_staged (leftBase.trans rightBase.symm)
    (leftCounter.trans rightCounter.symm)
  intro id
  have named : left.occurrences id = [] ↔ right.occurrences id = [] := by
    rw [piled, Option.toList_eq_nil_iff, Record.pile_eq_none_iff]
  rw [getElem?_staged_mergeSnapshot, getElem?_staged_mergeSnapshot, piled,
    Record.pile_toList_pile, ← piled]
  simp only [named]

end Draft

/-- Merges some records, one after the other. -/
def Edit.mergeEach (entries : List (RecordId × Record)) : Edit Empty Unit :=
  entries.forM fun entry => merge entry.1 entry.2

theorem Edit.run_mergeEach (entries : List (RecordId × Record)) (draft : Draft) :
    (mergeEach entries).run draft = (.ok (), draft.mergeSnapshot ⟨entries⟩) := by
  induction entries generalizing draft with
  | nil => rfl
  | cons entry entries induction =>
      have first : (merge entry.1 entry.2 : Edit Empty Unit).run draft =
          (.ok (), draft.merge entry.1 entry.2) := rfl
      exact (run_bind_of_ok (fun _ => mergeEach entries) first).trans (induction _)

namespace Normalized

variable {occurrences : List (RecordId × Record)}

theorem getElem?_collect_of_typed (id : RecordId)
    (typed : ∀ left ∈ occurrences, ∀ right ∈ occurrences, left.1 = id → right.1 = id →
      left.2.typeTag = right.2.typeTag) :
    (collect occurrences)[id]? = Record.pile none (Snapshot.occurrences ⟨occurrences⟩ id) := by
  induction occurrences using List.reverseRecOn with
  | nil => rfl
  | append_singleton occurrences last induction =>
      have earlier := induction fun left listed right member =>
        typed left (List.mem_append_left _ listed) right (List.mem_append_left _ member)
      rw [collect_snoc, getElem?_collectOne, Snapshot.occurrences_snoc]
      split
      case isFalse => exact earlier
      case isTrue own =>
        rw [Record.pile_snoc, ← earlier]
        cases collected : (collect occurrences)[id]? with
        | none => rfl
        | some record =>
            have same : record.typeTag = last.2.typeTag :=
              typeTag_of_collect (fun entry member named =>
                typed entry (List.mem_append_left _ member) last (by simp) named own) collected
            simp [Record.merge, same]

/-- Once collected, an id has the record that its occurrences make together. -/
theorem occurrences_collect (typed : ∀ left ∈ occurrences, ∀ right ∈ occurrences,
    left.1 = right.1 → left.2.typeTag = right.2.typeTag) (id : RecordId) :
    Snapshot.occurrences ⟨(collect occurrences).toList⟩ id =
      (Record.pile none (Snapshot.occurrences ⟨occurrences⟩ id)).toList := by
  rw [Snapshot.occurrences_of_distinct (pairwise_ne_toList _), lookup_toList,
    getElem?_collect_of_typed id]
  intro left listed right member own named
  exact typed left listed right member (own.trans named.symm)

end Normalized

namespace Store

/-- The store after some records were merged, each by an update of its own. -/
def applyEach (store : Store) (entries : List (RecordId × Record)) : Store :=
  entries.foldl (fun store entry => (store.applySnapshot ⟨[entry]⟩).1) store

theorem view_applyEach (store : Store) (entries : List (RecordId × Record)) :
    (store.applyEach entries).records.view = store.records.view.mergeSnapshot ⟨entries⟩ := by
  induction entries generalizing store with
  | nil => rfl
  | cons entry entries induction =>
      refine (induction _).trans ?_
      rw [view_applySnapshot]
      rfl

theorem rest_applyEach (store : Store) (entries : List (RecordId × Record)) :
    store.applyEach entries = { store with records := (store.applyEach entries).records } := by
  induction entries generalizing store with
  | nil => rfl
  | cons entry entries induction =>
      refine (induction _).trans ?_
      exact congrArg (fun before : Store => { before with
        records := (store.applyEach (entry :: entries)).records })
        (rest_applySnapshot store ⟨[entry]⟩)

/-- Records that are merged by updates of their own come to the same as those of a snapshot. -/
theorem same_applyEach (store : Store) (entries : List (RecordId × Record)) :
    (store.applySnapshot ⟨entries⟩).1.Same (store.applyEach entries) := by
  constructor
  case records => rw [Records.same_iff_view, view_applySnapshot, view_applyEach]
  case rest => rw [rest_applyEach, rest_applySnapshot]

end Store

namespace Normalized

/-- The entities that an answer leads to agree about the type of an id. -/
def Consistent (root : List (String × Json)) : Prop :=
  ∀ left ∈ reachedFrom root, ∀ right ∈ reachedFrom root, left.lookup "id" = right.lookup "id" →
    left.lookup "__typename" = right.lookup "__typename"

variable {root : List (String × Json)} {normalized : Normalized}

theorem typed_of_consistent (ran : ofJson (.obj root) = .ok normalized)
    (consistent : Consistent root) :
    ∀ left ∈ (reachedFrom root).map ownRecord, ∀ right ∈ (reachedFrom root).map ownRecord,
      left.1 = right.1 → left.2.typeTag = right.2.typeTag := by
  have labelled := exists_ofJson_iff.mp ⟨normalized, ran⟩
  rw [List.forall_mem_map]
  intro left reached
  rw [List.forall_mem_map]
  intro right member same
  obtain ⟨leftId, leftTag, leftNamed, leftTyped⟩ := labelled left reached
  obtain ⟨rightId, rightTag, rightNamed, rightTyped⟩ := labelled right member
  rw [ownRecord, ownRecord, idOf_of_lookup leftNamed, idOf_of_lookup rightNamed] at same
  obtain rfl := RecordId.persisted.inj same
  have tags := consistent left reached right member (leftNamed.trans rightNamed.symm)
  rw [ownRecord, ownRecord, typeOf_of_lookup leftTyped, typeOf_of_lookup (tags ▸ leftTyped)]

/-- An answer whose entities agree about their types can be merged at once or entity by entity. Its
snapshot makes of every store what one update makes of it that merges the own record of each entity
that is reached, one after the other, an entity after everything within it, and members and items in
their order; and it tells the same. Updates for each of these records bring the same records about.
-/
theorem merged_each (store : Store) (ran : ofJson (.obj root) = .ok normalized)
    (consistent : Consistent root) :
    let entries := (reachedFrom root).map ownRecord
    let each := store.update (Edit.mergeEach entries)
    each.result = .ok () ∧
      store.applySnapshot normalized.snapshot = (each.store, each.commit) ∧
      (store.applySnapshot normalized.snapshot).1.Same (store.applyEach entries) := by
  intro entries each
  obtain ⟨read, found, inside, rfl⟩ := ofJson_of_ok ran
  obtain ⟨-, rfl⟩ := eq_of_rootFields inside
  have drafts (draft : Draft) : draft.mergeSnapshot ⟨(collect entries).toList⟩ =
      draft.mergeSnapshot ⟨entries⟩ :=
    draft.mergeSnapshot_eq_of_piled (occurrences_collect (typed_of_consistent ran consistent))
  have snapshots : store.applySnapshot ⟨(collect entries).toList⟩ =
      store.applySnapshot ⟨entries⟩ := by
    simp only [Store.applySnapshot, Store.update, Edit.run_mergeSnapshot, drafts]
  have one : each = store.update (Edit.mergeSnapshot ⟨entries⟩) := by
    simp only [each, Store.update, Edit.run_mergeSnapshot, Edit.run_mergeEach]
  refine ⟨by rw [one]; rfl, ?_, ?_⟩
  · rw [snapshots, one]
    rfl
  · rw [snapshots]
    exact store.same_applyEach entries

/-- A realm that is listed among its own children, with another name there, has the name that is
given last, the path that is given among the children only, and what the store has besides. -/
theorem merged_each_of_own_child :
    let child : Json := .obj [("__typename", .str "Realm"), ("id", .str "r"),
      ("name", .str "inner"), ("path", .str "/a")]
    let realm : Json := .obj [("__typename", .str "Realm"), ("children", .arr [child]),
      ("id", .str "r"), ("name", .str "outer")]
    let root : List (String × Json) := [("realm", realm)]
    let old : Record := ⟨"Page", .ofList [("isRoot", .scalar (.bool true)),
      ("name", .scalar (.str "old"))]⟩
    let store : Store := { records := (∅ : Records).insert (.persisted "r") old }
    let merged : List (String × FieldValue) := [("children", .links [.persisted "r"]),
      ("isRoot", .scalar (.bool true)), ("name", .scalar (.str "outer")),
      ("path", .scalar (.str "/a"))]
    Consistent root ∧ ∃ normalized, ofJson (.obj root) = .ok normalized ∧
      (store.applySnapshot normalized.snapshot).1.Same
        (store.applyEach ((reachedFrom root).map ownRecord)) ∧
      (store.update (Edit.mergeEach ((reachedFrom root).map ownRecord))).store =
        (store.applySnapshot normalized.snapshot).1 ∧
      ((store.applySnapshot normalized.snapshot).1.read (.persisted "r")).map (fun record =>
        (record.typeTag, record.fields.toList)) = some ("Realm", merged) := by
  intro child realm root old store merged
  have consistent : Consistent root := by
    unfold Consistent
    decide +kernel
  have stored : (ofJson (.obj root)).map (fun normalized =>
      ((store.applySnapshot normalized.snapshot).1.read (.persisted "r")).map fun record =>
        (record.typeTag, record.fields.toList)) = .ok (some ("Realm", merged)) := by
    decide +kernel
  cases ran : ofJson (.obj root) with
  | error => simp [ran, Except.map] at stored
  | ok normalized =>
      obtain ⟨-, one, each⟩ := merged_each store ran consistent
      rw [ran] at stored
      exact ⟨consistent, normalized, rfl, each, (congrArg Prod.fst one).symm,
        Except.ok.inj stored⟩

end Normalized

end RealmDesk
