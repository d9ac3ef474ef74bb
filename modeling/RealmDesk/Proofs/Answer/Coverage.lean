import RealmDesk.Proofs.Answer.Reached

/-!
# Coverage of answers

An answer is turned into records exactly if every entity that its root leads to has an id and a
type. The records are then those of the entities and say nothing else: each field keeps the value
that was given last, where an entity comes after everything within it.
-/

namespace RealmDesk

namespace Normalized

/-- An entity, by its members, has a text as its id and one as its type. -/
def Labelled (members : List (String × Json)) : Prop :=
  ∃ id tag, members.lookup "id" = some (.str id) ∧ members.lookup "__typename" = some (.str tag)

/-- The value that the entities with an id give a field, the last one that has it. -/
def lastGiven? (root : List (String × Json)) (id : RecordId) (key : String) : Option Json :=
  (reachedFrom root).reverse.findSome? fun members =>
    if idOf (.obj members) = id then members.reverse.lookup key else none

/-- Some records cover an answer: they are those of the entities that its root leads to, and keep
what stands there. -/
structure Covers (normalized : Normalized) (root : List (String × Json)) : Prop where
  /-- The ids stand in ascending order, each once. -/
  ascending : normalized.snapshot.entries.Pairwise fun left right => compare left.1 right.1 = .lt
  /-- The ids are those of the entities. -/
  listed : ∀ id, id ∈ normalized.snapshot.entries.map Prod.fst ↔
    ∃ text, id = .persisted text ∧
      ∃ members ∈ reachedFrom root, members.lookup "id" = some (.str text)
  /-- Whatever a record links to has a record. -/
  linked : ∀ entry ∈ normalized.snapshot.entries, ∀ field target, entry.2.LinksTo field target →
    target ∈ normalized.snapshot.entries.map Prod.fst
  /-- Whatever the root links to has a record. -/
  rootLinked : ∀ (field : String) (value : FieldValue), normalized.root[field]? = some value →
    ∀ target ∈ value.targets, target ∈ normalized.snapshot.entries.map Prod.fst
  /-- The header of an entity is in no record. -/
  headless : ∀ entry ∈ normalized.snapshot.entries, ∀ key, isHeaderKey key = true →
    entry.2.get? key = none
  /-- A field of a record keeps what was given last. -/
  keeps : ∀ entry ∈ normalized.snapshot.entries, ∀ key, isHeaderKey key = false →
    entry.2.get? key = (lastGiven? root entry.1 key).map kept
  /-- A field of the root keeps what stands there. -/
  rootKeeps : ∀ key : String, normalized.root[key]? = (root.reverse.lookup key).map kept

variable {members root : List (String × Json)} {key : String} {normalized : Normalized}
  {read : List (String × FieldValue)} {found : List (RecordId × Record)} {data : Json}

theorem labelled_iff : Labelled members ↔ ∃ head, header members = .ok head := by
  simp only [Labelled, Prod.exists, header_eq_ok_iff]

theorem labelled_of_occurs {entry : RecordId × Record} (occurs : Occurs members entry) :
    Labelled members := by
  cases occurs with
  | intro head inside => exact labelled_iff.mpr ⟨_, head⟩

/-- An answer is turned into records exactly if its entities have ids and types. -/
theorem exists_ofJson_iff :
    (∃ normalized, ofJson (.obj root) = .ok normalized) ↔
      ∀ members ∈ reachedFrom root, Labelled members := by
  constructor
  · rintro ⟨normalized, ran⟩ members member
    obtain ⟨read, found, inside, -⟩ := ofJson_of_ok ran
    obtain ⟨entry, -, occurs⟩ :=
      (read_of_rootFields inside).exists_of_metIn (metIn_iff_mem_reachedFrom.mpr member)
    exact labelled_of_occurs occurs
  · intro labelled
    obtain ⟨read, inside⟩ := exists_rootFields fun key json listed =>
      exists_field json fun members met => labelled_iff.mp
        (labelled members (metIn_iff_mem_reachedFrom.mp ⟨key, json, listed, met⟩))
    exact ⟨_, by rw [ofJson, inside]; rfl⟩

theorem lookup_keptMembers (members : List (String × Json)) (key : String) :
    (keptMembers members).lookup key = (members.lookup key).map kept := by
  induction members with
  | nil => rfl
  | cons member members induction =>
      rw [keptMembers, List.map_cons, List.lookup_cons, List.lookup_cons]
      cases key == member.1
      · exact induction
      · rfl

theorem lookup_fieldsOf (members : List (String × Json)) (key : String) :
    (fieldsOf members).lookup key = if isHeaderKey key then none else members.lookup key := by
  induction members with
  | nil => simp [fieldsOf]
  | cons member members induction =>
      obtain ⟨name, value⟩ := member
      rw [fieldsOf] at induction ⊢
      rw [List.filter_cons, List.lookup_cons]
      cases same : key == name with
      | true =>
          obtain rfl := beq_iff_eq.mp same
          cases isHeader : isHeaderKey key with
          | true => simpa [isHeader] using induction
          | false => simp
      | false =>
          split
          · rw [List.lookup_cons, same]
            exact induction
          · exact induction

theorem get?_ownRecord (members : List (String × Json)) (key : String) :
    (ownRecord members).2.get? key =
      if isHeaderKey key then none else (members.reverse.lookup key).map kept := by
  rw [ownRecord, Record.get?, FieldMap.getElem?_ofList, keptMembers, ← List.map_reverse, fieldsOf,
    ← List.filter_reverse]
  refine (lookup_keptMembers _ key).trans ?_
  rw [← fieldsOf, lookup_fieldsOf]
  split <;> rfl

theorem get?_collect_ownRecord {id : RecordId} {record : Record}
    (collected : (collect ((reachedFrom root).map ownRecord))[id]? = some record) (key : String) :
    record.get? key = if isHeaderKey key then none else (lastGiven? root id key).map kept := by
  rw [get?_collect collected, List.filterMap_map, List.getLast?_filterMap]
  split
  case isTrue isHeader =>
    refine List.findSome?_eq_none_iff.mpr fun members _ => ?_
    simp [get?_ownRecord, isHeader]
  case isFalse isField =>
    rw [lastGiven?, List.map_findSome?]
    congr 1
    funext members
    change (if idOf (.obj members) = id then (ownRecord members).2.get? key else none) = _
    rw [get?_ownRecord, if_neg isField, Function.comp_apply]
    split <;> rfl

theorem mem_collect_ownRecord (labelled : ∀ members ∈ reachedFrom root, Labelled members)
    (id : RecordId) :
    id ∈ (collect ((reachedFrom root).map ownRecord)).toList.map Prod.fst ↔
      ∃ text, id = .persisted text ∧
        ∃ members ∈ reachedFrom root, members.lookup "id" = some (.str text) := by
  rw [Std.ExtTreeMap.map_fst_toList_eq_keys, Std.ExtTreeMap.mem_keys,
    Std.ExtTreeMap.mem_iff_isSome_getElem?, isSome_getElem?_collect, List.map_map, List.mem_map]
  constructor
  · rintro ⟨members, member, rfl⟩
    obtain ⟨text, -, named, -⟩ := labelled members member
    exact ⟨text, idOf_of_lookup named, members, member, named⟩
  · rintro ⟨text, rfl, members, member, named⟩
    exact ⟨members, member, idOf_of_lookup named⟩

/-- Records that were made of an answer cover it. -/
theorem covers_of_ofJson (ran : ofJson (.obj root) = .ok normalized) : normalized.Covers root := by
  have labelled := exists_ofJson_iff.mp ⟨normalized, ran⟩
  obtain ⟨closed, rootLinked⟩ := closed_of_ofJson ran
  obtain ⟨read, found, inside, rfl⟩ := ofJson_of_ok ran
  obtain ⟨rfl, rfl⟩ := eq_of_rootFields inside
  have fields {entry : RecordId × Record}
      (member : entry ∈ (collect ((reachedFrom root).map ownRecord)).toList) (key : String) :=
    get?_collect_ownRecord (Std.ExtTreeMap.mem_toList_iff_getElem?_eq_some.mp member) key
  refine ⟨Std.ExtTreeMap.ordered_keys_toList, mem_collect_ownRecord labelled, closed.linked,
    rootLinked, fun entry member key isHeader => ?_, fun entry member key isField => ?_,
    fun key => ?_⟩
  · rw [fields member, if_pos isHeader]
  · rw [fields member, if_neg (by simp [isField])]
  · rw [FieldMap.getElem?_ofList, keptMembers, ← List.map_reverse]
    exact lookup_keptMembers _ key

/-- An answer is turned into records exactly if it is an object and every entity that it leads to
has an id and a type. The records then cover the answer. -/
theorem covers_entities (data : Json) :
    ((∃ normalized, ofJson data = .ok normalized) ↔
      ∃ root, data = .obj root ∧ ∀ members ∈ reachedFrom root, Labelled members) ∧
    ∀ normalized, ofJson data = .ok normalized →
      ∃ root, data = .obj root ∧ normalized.Covers root := by
  cases data with
  | obj root =>
      refine ⟨?_, fun normalized ran => ⟨root, rfl, covers_of_ofJson ran⟩⟩
      simp only [exists_ofJson_iff, Json.obj.injEq, exists_eq_left']
  | _ => exact ⟨iff_of_false nofun nofun, nofun⟩

/-- Two entities with one id become one record, which keeps what the second one gives. -/
theorem covers_entities_of_repeated :
    let target : Json := .obj [("__typename", .str "S"), ("id", .str "s")]
    let root : List (String × Json) :=
      [("a", .obj [("__typename", .str "R"), ("id", .str "r"), ("x", .int 1)]),
        ("b", .obj [("__typename", .str "R"), ("id", .str "r"), ("x", target)])]
    ∃ normalized, ofJson (.obj root) = .ok normalized ∧ normalized.Covers root ∧
      normalized.snapshot.entries.map Prod.fst = [.persisted "r", .persisted "s"] ∧
      lastGiven? root (.persisted "r") "x" = some target := by
  intro target root
  have ids : (ofJson (.obj root)).map (fun normalized => normalized.snapshot.entries.map Prod.fst) =
      .ok [.persisted "r", .persisted "s"] := by decide +kernel
  cases ran : ofJson (.obj root) with
  | error => simp [ran, Except.map] at ids
  | ok normalized =>
      obtain ⟨other, same, covers⟩ := (covers_entities (.obj root)).2 normalized ran
      obtain rfl := Json.obj.inj same
      rw [ran] at ids
      exact ⟨normalized, rfl, covers, Except.ok.inj ids, by decide +kernel⟩

/-- What an entity gives is not kept if an entity with the same id gives the field again later. -/
theorem not_kept_of_given_again :
    let first : List (String × Json) := [("__typename", .str "R"), ("id", .str "r"), ("x", .int 1)]
    let second : List (String × Json) := [("__typename", .str "R"), ("id", .str "r"),
      ("x", .obj [("__typename", .str "S"), ("id", .str "s")])]
    let root : List (String × Json) := [("a", .obj first), ("b", .obj second)]
    first ∈ reachedFrom root ∧ ("x", Json.int 1) ∈ first ∧ kept (.int 1) = .scalar (.int 1) ∧
      (ofJson (.obj root)).map (fun normalized =>
        (normalized.snapshot.get? (.persisted "r")).bind fun record => record.get? "x") =
          .ok (some (.link (.persisted "s"))) := by
  intro first second root
  exact ⟨by decide +kernel, by decide +kernel, rfl, by decide +kernel⟩

end Normalized

end RealmDesk
