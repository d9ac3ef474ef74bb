import Mathlib.Data.String.Basic
import RealmDesk.Proofs.Answer.Coverage

/-!
# Normalized answers nested again

To open a link is to put the object in its place that its record makes, with the links within it
opened in turn. Opening every link of a normalized answer undoes the normalizing: if no two entities
of the answer have the same id then the answer comes back, members, lists and all. A record is taken
out of the snapshot while it is open, so opening ends on any snapshot, one whose links run in a
circle included.
-/

namespace RealmDesk

/-- The keys of a listing ascend, each of them standing once. -/
def Ascending {α : Type} (listing : List (String × α)) : Prop :=
  listing.Pairwise fun left right => left.1 < right.1

namespace Ascending

variable {α : Type} {left right listing : List (String × α)} {key : String} {value : α}

theorem nodup_keys (ascending : Ascending listing) : (listing.map Prod.fst).Nodup :=
  List.pairwise_map.mpr (ascending.imp fun below => ne_of_lt below)

theorem lookup_eq_some_iff (ascending : Ascending listing) :
    listing.lookup key = some value ↔ (key, value) ∈ listing := by
  constructor
  · intro looked
    obtain ⟨front, back, split, -⟩ := List.lookup_eq_some_iff.mp looked
    simp [split]
  · intro listed
    exact Normalized.lookup_of_mem listed fun _ again =>
      (Prod.mk.inj (List.inj_on_of_nodup_map ascending.nodup_keys again listed rfl)).2

theorem eq_of_perm (ascending : Ascending left) (same : Ascending right)
    (perm : left.Perm right) : left = right := by
  refine perm.eq_of_pairwise ?_ ascending same
  intro first second _ _ below above
  exact absurd above (lt_asymm below)

end Ascending

theorem FieldMap.toList_ofList {fields : List (String × FieldValue)}
    (ascending : Ascending fields) : (ofList fields).toList = fields := by
  have sorted : Ascending (ofList fields).toList :=
    Std.ExtTreeMap.ordered_keys_toList.imp compare_lt_iff_lt.mp
  refine sorted.eq_of_perm ascending ?_
  refine (List.perm_ext_iff_of_nodup sorted.nodup_keys.of_map ascending.nodup_keys.of_map).mpr ?_
  rintro ⟨name, value⟩
  rw [Std.ExtTreeMap.mem_toList_iff_getElem?_eq_some, getElem?_ofList]
  constructor
  · exact fun found => mem_of_getElem?_ofList ((getElem?_ofList _ _).trans found)
  · intro listed
    refine Normalized.lookup_of_mem (List.mem_reverse.mpr listed) fun other again => ?_
    have first := ascending.lookup_eq_some_iff.mpr (List.mem_reverse.mp again)
    exact Option.some.inj (first.symm.trans (ascending.lookup_eq_some_iff.mpr listed))

namespace Json

variable {key : String} {value : Json} {items : List Json} {members listing : List (String × Json)}

theorem perm_insertMember (fresh : ∀ member ∈ members, member.1 ≠ key) :
    (insertMember key value members).Perm ((key, value) :: members) := by
  induction members with
  | nil => exact .refl _
  | cons member members induction =>
      obtain ⟨first, firstValue⟩ := member
      rw [List.forall_mem_cons] at fresh
      rw [insertMember, if_neg fresh.1.symm]
      split
      · exact .refl _
      · exact ((induction fresh.2).cons _).trans (.swap _ _ _)

theorem ascending_insertMember (ascending : Ascending members)
    (fresh : ∀ member ∈ members, member.1 ≠ key) : Ascending (insertMember key value members) := by
  induction members with
  | nil => exact List.pairwise_singleton _ _
  | cons member members induction =>
      obtain ⟨first, firstValue⟩ := member
      rw [List.forall_mem_cons] at fresh
      obtain ⟨below, rest⟩ := List.pairwise_cons.mp ascending
      rw [insertMember, if_neg fresh.1.symm]
      split
      case isTrue before =>
        refine List.pairwise_cons.mpr ⟨?_, ascending⟩
        rw [List.forall_mem_cons]
        exact ⟨before, fun member listed => before.trans (below member listed)⟩
      case isFalse after =>
        refine List.pairwise_cons.mpr ⟨fun member listed => ?_, induction rest fresh.2⟩
        rcases List.mem_cons.mp ((perm_insertMember fresh.2).mem_iff.mp listed) with rfl | listed
        · exact lt_of_le_of_ne (not_lt.mp after) fresh.1
        · exact below member listed

/-- Members put in one by one ascend with those that stood there, if no key comes twice. -/
theorem ascending_foldl_insertMember (ascending : Ascending members)
    (apart : ((listing ++ members).map Prod.fst).Nodup) :
    let sorted := listing.foldl (fun sorted member => insertMember member.1 member.2 sorted) members
    Ascending sorted ∧ sorted.Perm (listing ++ members) := by
  induction listing generalizing members with
  | nil => exact ⟨ascending, .refl _⟩
  | cons member listing induction =>
      rw [List.cons_append, List.map_cons, List.nodup_cons] at apart
      have fresh : ∀ other ∈ members, other.1 ≠ member.1 := fun other listed same =>
        apart.1 (same ▸ List.mem_map_of_mem (List.mem_append_right _ listed))
      have moved : (listing ++ insertMember member.1 member.2 members).Perm
          (member :: (listing ++ members)) :=
        ((perm_insertMember fresh).append_left listing).trans List.perm_middle
      obtain ⟨sorted, same⟩ := induction (ascending_insertMember ascending fresh)
        ((moved.map Prod.fst).nodup_iff.mpr (List.nodup_cons.mpr apart))
      exact ⟨sorted, same.trans moved⟩

theorem object_eq_obj (ascending : Ascending members) (perm : listing.Perm members) :
    object listing = .obj members := by
  have keys : ((listing ++ []).map Prod.fst).Nodup := by
    rw [List.append_nil, (perm.map Prod.fst).nodup_iff]
    exact ascending.nodup_keys
  obtain ⟨sorted, same⟩ := ascending_foldl_insertMember .nil keys
  rw [List.append_nil] at same
  exact congrArg obj (sorted.eq_of_perm ascending (same.trans perm))

theorem isOrdered_of_mem_items (ordered : (Json.arr items).isOrdered = true) :
    ∀ item ∈ items, item.isOrdered = true := by
  rw [isOrdered] at ordered
  induction items with
  | nil => simp
  | cons item items induction =>
      rw [areOrderedItems, Bool.and_eq_true] at ordered
      exact List.forall_mem_cons.mpr ⟨ordered.1, induction ordered.2⟩

/-- The members of an object in order ascend, and are in order themselves. -/
theorem ascending_of_isOrdered (ordered : (Json.obj members).isOrdered = true) :
    Ascending members ∧ ∀ member ∈ members, member.2.isOrdered = true := by
  rw [isOrdered] at ordered
  induction members with
  | nil => exact ⟨.nil, by simp⟩
  | cons member members induction =>
      obtain ⟨key, value⟩ := member
      rw [areOrderedMembers.eq_def, Bool.and_eq_true, Bool.and_eq_true] at ordered
      obtain ⟨⟨first, rest⟩, next⟩ := ordered
      obtain ⟨ascending, inner⟩ := induction rest
      refine ⟨List.pairwise_cons.mpr ⟨fun member listed => ?_, ascending⟩,
        List.forall_mem_cons.mpr ⟨first, inner⟩⟩
      cases members with
      | nil => cases listed
      | cons second members =>
          have below : key < second.1 := of_decide_eq_true next
          rcases List.mem_cons.mp listed with rfl | later
          · exact below
          · exact below.trans ((List.pairwise_cons.mp ascending).1 member later)

end Json

/-- The value with its links opened. -/
def FieldValue.opened? (opening : RecordId → Option Json) : FieldValue → Option Json
  | .scalar value => some value
  | .link target => opening target
  | .links targets => (targets.mapM opening).map .arr

/-- The fields with their links opened. -/
def FieldMap.opened? (opening : RecordId → Option Json) (fields : FieldMap) :
    Option (List (String × Json)) :=
  fields.toList.mapM fun field => (field.2.opened? opening).map (field.1, ·)

/-- The object that a record makes under an id of the server, with its links opened. -/
def Record.opened? (opening : RecordId → Option Json) (text : String) (record : Record) :
    Option Json :=
  (record.fields.opened? opening).map fun fields =>
    .object (("id", .str text) :: ("__typename", .str record.typeTag) :: fields)

namespace Snapshot

/-- The snapshot without the records of an id. -/
def without (snapshot : Snapshot) (id : RecordId) : Snapshot :=
  ⟨snapshot.entries.filter fun entry => entry.1 ≠ id⟩

variable {snapshot : Snapshot} {id other : RecordId} {record : Record}

theorem get?_without_of_ne (different : other ≠ id) :
    (snapshot.without id).get? other = snapshot.get? other := by
  obtain ⟨entries⟩ := snapshot
  rw [without, get?, get?]
  induction entries with
  | nil => rfl
  | cons entry entries induction =>
      rw [List.filter_cons]
      split
      case isTrue kept =>
        rw [List.lookup_cons, List.lookup_cons, induction]
      case isFalse left =>
        obtain rfl : entry.1 = id := by simpa using left
        rw [List.lookup_cons, beq_eq_false_iff_ne.mpr different]
        exact induction

theorem length_without_lt (found : snapshot.get? id = some record) :
    (snapshot.without id).entries.length < snapshot.entries.length := by
  obtain ⟨front, back, split, -⟩ := List.lookup_eq_some_iff.mp found
  exact List.length_filter_lt_length_iff_exists.mpr ⟨(id, record), by simp [split], by simp⟩

/-- The record of an id as an object, with its links opened; none if a link leads to no record of
the server, or back to a record that is open. -/
def object? (snapshot : Snapshot) (id : RecordId) : Option Json :=
  match _found : snapshot.get? id with
  | none => none
  | some record => id.persisted?.bind fun text =>
      record.opened? (fun target => (snapshot.without id).object? target) text
termination_by snapshot.entries.length
decreasing_by exact length_without_lt _found

theorem object?_of_get? {text : String} (found : snapshot.get? (.persisted text) = some record) :
    snapshot.object? (.persisted text) =
      record.opened? (snapshot.without (.persisted text)).object? text := by
  rw [object?]
  split
  case h_1 missing => rw [missing] at found; cases found
  case h_2 same =>
    rw [found] at same
    obtain rfl := Option.some.inj same
    rfl

end Snapshot

namespace Normalized

/-- The answer that the records were made of: the root fields with their links opened. -/
def nested? (normalized : Normalized) : Option Json :=
  (normalized.root.opened? normalized.snapshot.object?).map .obj

variable {members root : List (String × Json)} {items : List Json} {json : Json}
  {entities others : List (List (String × Json))} {snapshot : Snapshot} {normalized : Normalized}

/-- A snapshot holds some entities: each of them has its own record, and an id for itself. -/
structure Holds (snapshot : Snapshot) (entities : List (List (String × Json))) : Prop where
  /-- The entities have ids and types. -/
  labelled : ∀ members ∈ entities, Labelled members
  /-- No two entities have the same id. -/
  distinct : (entities.map fun members => idOf (.obj members)).Nodup
  /-- Under the id of an entity stands its own record. -/
  stored : ∀ members ∈ entities,
    snapshot.get? (idOf (.obj members)) = some (ownRecord members).2

theorem Holds.sublist (holds : Holds snapshot entities) (sublist : others.Sublist entities) :
    Holds snapshot others :=
  ⟨fun members member => holds.labelled members (sublist.subset member),
    (sublist.map _).nodup holds.distinct,
    fun members member => holds.stored members (sublist.subset member)⟩

/-- The entities within an entity are held without the record of the entity itself. -/
theorem Holds.without (holds : Holds snapshot (entities ++ [members])) :
    Holds (snapshot.without (idOf (.obj members))) entities := by
  have inner := holds.sublist (List.sublist_append_left entities [members])
  refine ⟨inner.labelled, inner.distinct, fun other member => ?_⟩
  have apart := holds.distinct
  rw [List.map_append, List.map_singleton, ← List.concat_eq_append, List.nodup_concat] at apart
  rw [Snapshot.get?_without_of_ne fun same => apart.1 (List.mem_map.mpr ⟨other, member, same⟩)]
  exact inner.stored other member

theorem getElem?_collect_of_distinct {occurrences : List (RecordId × Record)}
    (distinct : (occurrences.map Prod.fst).Nodup) {entry : RecordId × Record}
    (listed : entry ∈ occurrences) : (collect occurrences)[entry.1]? = some entry.2 := by
  induction occurrences using List.reverseRecOn with
  | nil => cases listed
  | append_singleton occurrences last induction =>
      rw [List.map_append, List.map_singleton, ← List.concat_eq_append,
        List.nodup_concat] at distinct
      rw [collect_snoc, getElem?_collectOne]
      rcases List.mem_append.mp listed with earlier | own
      · have different : last.1 ≠ entry.1 := fun same =>
          distinct.1 (same ▸ List.mem_map_of_mem earlier)
        rw [if_neg different]
        exact induction distinct.2 earlier
      · obtain rfl := List.mem_singleton.mp own
        have fresh : (collect occurrences)[entry.1]? = none := by
          rw [← Option.not_isSome_iff_eq_none, isSome_getElem?_collect]
          exact distinct.1
        rw [if_pos rfl, fresh]
        rfl

/-- The snapshot of an answer holds its entities if no two of them have the same id. -/
theorem holds_of_ofJson (ran : ofJson (.obj root) = .ok normalized)
    (distinct : ((reachedFrom root).map fun members => idOf (.obj members)).Nodup) :
    Holds normalized.snapshot (reachedFrom root) := by
  refine ⟨exists_ofJson_iff.mp ⟨normalized, ran⟩, distinct, fun members member => ?_⟩
  obtain ⟨read, found, inside, rfl⟩ := ofJson_of_ok ran
  obtain ⟨-, rfl⟩ := eq_of_rootFields inside
  refine (lookup_toList _ _).trans
    (@getElem?_collect_of_distinct _ ?_ (ownRecord members) (List.mem_map_of_mem member))
  rw [List.map_map]
  exact distinct

/-! ## What is opened -/

theorem reachedFields_eq_reachedFrom (members : List (String × Json)) :
    reachedFields members = reachedFrom (fieldsOf members) := by
  induction members with
  | nil => rfl
  | cons member members induction =>
      obtain ⟨key, value⟩ := member
      rw [reachedFields, induction, fieldsOf, fieldsOf, List.filter_cons]
      cases isHeaderKey key <;> rfl

theorem reachedItems_eq_flatMap (items : List Json) :
    reachedItems items = items.flatMap reached := by
  induction items with
  | nil => rfl
  | cons item items induction => rw [reachedItems, induction, List.flatMap_cons]

theorem reached_sublist_reachedFrom {member : String × Json} (listed : member ∈ members) :
    (reached member.2).Sublist (reachedFrom members) :=
  List.sublist_flatten_of_mem (List.mem_map_of_mem listed)

theorem mapM_eq_some_self {α : Type} {opening : α → Option α} {items : List α}
    (each : ∀ item ∈ items, opening item = some item) : items.mapM opening = some items := by
  induction items with
  | nil => rfl
  | cons item items induction =>
      rw [List.forall_mem_cons] at each
      rw [List.mapM_cons, each.1, induction each.2]
      rfl

theorem opened?_ofList_keptMembers {opening : RecordId → Option Json}
    (ascending : Ascending members)
    (each : ∀ member ∈ members, (kept member.2).opened? opening = some member.2) :
    (FieldMap.ofList (keptMembers members)).opened? opening = some members := by
  have ascends : Ascending (keptMembers members) := List.pairwise_map.mpr ascending
  rw [FieldMap.opened?, FieldMap.toList_ofList ascends, keptMembers, List.mapM_map]
  refine mapM_eq_some_self fun member listed => ?_
  change ((kept member.2).opened? opening).map _ = _
  rw [each member listed]
  rfl

/-- An entity in order is its header together with its fields. -/
theorem perm_header_fieldsOf {id tag : String} (ascending : Ascending members)
    (named : members.lookup "id" = some (.str id))
    (typed : members.lookup "__typename" = some (.str tag)) :
    (("id", Json.str id) :: ("__typename", .str tag) :: fieldsOf members).Perm members := by
  have noField (key : String) (value : Json) (isHeader : isHeaderKey key = true) :
      (key, value) ∉ fieldsOf members := by
    simp [fieldsOf, isHeader]
  have fields : (fieldsOf members).Nodup := ascending.nodup_keys.of_map.filter _
  have split : (("id", Json.str id) :: ("__typename", .str tag) :: fieldsOf members).Nodup := by
    simp [fields, noField, isHeaderKey]
  refine (List.perm_ext_iff_of_nodup split ascending.nodup_keys.of_map).mpr ?_
  rintro ⟨key, value⟩
  simp only [List.mem_cons, Prod.mk.injEq, fieldsOf, List.mem_filter]
  constructor
  · rintro (⟨rfl, rfl⟩ | ⟨rfl, rfl⟩ | ⟨listed, -⟩)
    · exact ascending.lookup_eq_some_iff.mp named
    · exact ascending.lookup_eq_some_iff.mp typed
    · exact listed
  · intro listed
    have looked := ascending.lookup_eq_some_iff.mpr listed
    by_cases isId : key = "id"
    · subst isId
      exact .inl ⟨rfl, Option.some.inj (looked.symm.trans named)⟩
    by_cases isType : key = "__typename"
    · subst isType
      exact .inr (.inl ⟨rfl, Option.some.inj (looked.symm.trans typed)⟩)
    · exact .inr (.inr ⟨listed, by simp [isHeaderKey, isId, isType]⟩)

/-- An entity that is held is the object of its record, if its fields are opened. -/
theorem object?_of_holds (holds : Holds snapshot [members]) (ascending : Ascending members)
    (each : ∀ member ∈ fieldsOf members,
      (kept member.2).opened? (snapshot.without (idOf (.obj members))).object? = some member.2) :
    snapshot.object? (idOf (.obj members)) = some (.obj members) := by
  obtain ⟨id, tag, named, typed⟩ := holds.labelled members (List.mem_singleton.mpr rfl)
  have stored := holds.stored members (List.mem_singleton.mpr rfl)
  rw [idOf_of_lookup named] at each stored ⊢
  have opened : (ownRecord members).2.fields.opened?
      (snapshot.without (.persisted id)).object? = some (fieldsOf members) :=
    opened?_ofList_keptMembers (ascending.filter _) each
  have type : (ownRecord members).2.typeTag = tag := typeOf_of_lookup typed
  rw [Snapshot.object?_of_get? stored, Record.opened?, opened, type, Option.map_some,
    Json.object_eq_obj ascending (perm_header_fieldsOf ascending named typed)]

theorem kept_of_plain (single : isEntity json = false)
    (list : ∀ items, json = .arr items → items.all isEntity = false) :
    kept json = .scalar json := by
  cases json with
  | obj members => rw [kept, if_neg (by simp [single])]
  | arr items => rw [kept, if_neg (by simp [list items rfl])]
  | _ => rfl

/-- What is kept of an entity is opened as the record of its id. -/
theorem opened?_kept_of_entity (entity : isEntity json = true) (opening : RecordId → Option Json) :
    (kept json).opened? opening = opening (idOf json) := by
  cases json with
  | obj members => rw [kept, if_pos entity, FieldValue.opened?]
  | _ => cases entity

/-- What is kept of a value is opened to the value, if the entities that it leads to are held. -/
theorem opened?_kept (json : Json) {snapshot : Snapshot} (holds : Holds snapshot (reached json))
    (ordered : json.isOrdered = true) : (kept json).opened? snapshot.object? = some json := by
  by_cases single : isEntity json = true
  · cases json with
    | obj members =>
        obtain ⟨ascending, inner⟩ := Json.ascending_of_isOrdered ordered
        rw [reached, if_pos single] at holds
        rw [opened?_kept_of_entity single]
        refine object?_of_holds (holds.sublist (List.sublist_append_right _ _)) ascending ?_
        rintro ⟨key, value⟩ isField
        have within : (reached value).Sublist (reachedFields members) := by
          rw [reachedFields_eq_reachedFrom]
          exact reached_sublist_reachedFrom isField
        have listed := List.mem_of_mem_filter isField
        -- The record of the entity is out of the snapshot by now. Nothing within it is missed,
        -- since no entity there has its id.
        exact opened?_kept value (holds.without.sublist within) (inner _ listed)
    | _ => cases single
  · by_cases list : ∃ items, json = .arr items ∧ items.all isEntity = true
    · obtain ⟨items, rfl, all⟩ := list
      rw [reached, if_pos all, reachedItems_eq_flatMap] at holds
      rw [kept, if_pos all, FieldValue.opened?, List.mapM_map, mapM_eq_some_self, Option.map_some]
      intro item listed
      have within : (reached item).Sublist (items.flatMap reached) :=
        List.sublist_flatten_of_mem (List.mem_map_of_mem listed)
      have opened := opened?_kept item (holds.sublist within)
        (Json.isOrdered_of_mem_items ordered item listed)
      rwa [opened?_kept_of_entity (List.all_eq_true.mp all item listed)] at opened
    · rw [kept_of_plain (by simpa using single) fun items same =>
        by simpa using fun all => list ⟨items, same, all⟩]
      rfl
termination_by sizeOf json
decreasing_by
  · have := List.sizeOf_lt_of_mem listed
    simp_all
    omega
  · have := List.sizeOf_lt_of_mem listed
    simp_all
    omega

/-- Opening every link of a normalized answer gives the answer back, if no two of its entities have
the same id. The keys of its objects ascend, as they do in all JSON that is read. -/
theorem nested_eq_answer (ordered : (Json.obj root).isOrdered = true)
    (distinct : ((reachedFrom root).map fun members => idOf (.obj members)).Nodup)
    (ran : ofJson (.obj root) = .ok normalized) : normalized.nested? = some (.obj root) := by
  have holds := holds_of_ofJson ran distinct
  obtain ⟨read, found, inside, rfl⟩ := ofJson_of_ok ran
  obtain ⟨rfl, -⟩ := eq_of_rootFields inside
  obtain ⟨ascending, inner⟩ := Json.ascending_of_isOrdered ordered
  rw [nested?, opened?_ofList_keptMembers ascending, Option.map_some]
  intro member listed
  have within := holds.sublist (reached_sublist_reachedFrom listed)
  exact opened?_kept member.2 within (inner member listed)

/-- A realm comes back with its blocks, one of which shows a series, and so do a list without items,
a list of an entity and a number, and an object without an id. -/
theorem nested_eq_answer_of_realm :
    let series : Json := .obj [("__typename", .str "Series"), ("id", .str "s"), ("title", .null)]
    let first : Json := .obj [("__typename", .str "TextBlock"), ("content", .str "a"),
      ("id", .str "b")]
    let second : Json := .obj [("__typename", .str "SeriesBlock"), ("id", .str "c"),
      ("series", series)]
    let realm : Json := .obj [("__typename", .str "Realm"), ("ancestors", .arr []),
      ("blocks", .arr [first, second]), ("id", .str "r"), ("mixed", .arr [series, .int 1])]
    let root : List (String × Json) := [("currentUser", .obj [("name", .str "jane")]),
      ("realm", realm)]
    (Json.obj root).isOrdered = true ∧
      (reachedFrom root).map (fun members => idOf (.obj members)) =
        [.persisted "b", .persisted "s", .persisted "c", .persisted "r"] ∧
      ∃ normalized, ofJson (.obj root) = .ok normalized ∧
        normalized.nested? = some (.obj root) := by
  intro series first second realm root
  have ordered : (Json.obj root).isOrdered = true := by decide +kernel
  have ids : (reachedFrom root).map (fun members => idOf (.obj members)) =
      [.persisted "b", .persisted "s", .persisted "c", .persisted "r"] := by
    decide +kernel
  have distinct : ((reachedFrom root).map fun members => idOf (.obj members)).Nodup := by
    rw [ids]
    decide
  have accepted : (ofJson (.obj root)).isOk = true := by decide +kernel
  cases ran : ofJson (.obj root) with
  | error => rw [ran] at accepted; cases accepted
  | ok normalized =>
      exact ⟨ordered, ids, normalized, rfl, nested_eq_answer ordered distinct ran⟩

end Normalized

end RealmDesk
