import Mathlib.Data.List.Nodup
import RealmDesk.Proofs.Answer.Closure

/-!
# Entities of an answer

The reading of an answer meets the entities that it descends to: through the fields of entities, and
through lists of nothing but entities. It succeeds as soon as each of them has an id and a type, and
its occurrences are theirs, one for each time an entity is met.
-/

namespace RealmDesk

namespace Normalized

/-- An entity, given by its members, is met when a value is read. -/
inductive Met : Json → List (String × Json) → Prop where
  /-- An entity is met itself. -/
  | self {members : List (String × Json)} (entity : isEntity (.obj members) = true) :
      Met (.obj members) members
  /-- What is met in a field of an entity is met in the entity. -/
  | within {members inner : List (String × Json)} {key : String} {value : Json}
      (entity : isEntity (.obj members) = true) (listed : (key, value) ∈ members)
      (isField : isHeaderKey key = false) (met : Met value inner) : Met (.obj members) inner
  /-- What is met in an entity of a list is met in the list, if it holds nothing else. -/
  | among {items : List Json} {item : Json} {inner : List (String × Json)}
      (all : items.all isEntity = true) (listed : item ∈ items) (met : Met item inner) :
      Met (.arr items) inner

/-- An entity occurs as its record under its id. -/
inductive Occurs : List (String × Json) → RecordId × Record → Prop where
  /-- The record has the type of the entity and the fields of its members. -/
  | intro {members : List (String × Json)} {id tag : String}
      {read : List (String × FieldValue)} {found : List (RecordId × Record)}
      (head : header members = .ok (id, tag)) (inside : fields members = .ok (read, found)) :
      Occurs members (.persisted id, ⟨tag, FieldMap.ofList read⟩)

variable {members : List (String × Json)} {items : List Json} {key : String} {json : Json}
  {value : FieldValue} {read : List (String × FieldValue)} {targets : List RecordId}
  {found : List (RecordId × Record)}

/-- What was read of some members, and what was found in them. -/
structure Read (members : List (String × Json)) (read : List (String × FieldValue))
    (found : List (RecordId × Record)) : Prop where
  /-- Every member was read. -/
  each : ∀ key json, (key, json) ∈ members →
    ∃ value inner, field json = .ok (value, inner) ∧ (key, value) ∈ read ∧
      ∀ entry ∈ inner, entry ∈ found
  /-- Nothing else was read. -/
  only : ∀ key value, (key, value) ∈ read →
    ∃ json inner, (key, json) ∈ members ∧ field json = .ok (value, inner)
  /-- Nothing else was found. -/
  within : ∀ entry ∈ found, ∃ key json value inner, (key, json) ∈ members ∧
    field json = .ok (value, inner) ∧ entry ∈ inner

theorem read_of_rootFields (ran : rootFields members = .ok (read, found)) :
    Read members read found := by
  induction members generalizing read found with
  | nil =>
      cases ran
      exact ⟨nofun, nofun, nofun⟩
  | cons member members induction =>
      obtain ⟨name, first⟩ := member
      obtain ⟨value, inner, others, later, head, rest, rfl, rfl⟩ := rootFields_cons_of_ok ran
      have tail := induction rest
      refine ⟨fun key json listed => ?_, fun key value listed => ?_, fun entry member => ?_⟩
      · rcases List.mem_cons.mp listed with same | listed
        · obtain ⟨rfl, rfl⟩ := Prod.mk.inj same
          exact ⟨value, inner, head, List.mem_cons_self, fun entry => List.mem_append_left _⟩
        · obtain ⟨value, deeper, ran, member, kept⟩ := tail.each key json listed
          exact ⟨value, deeper, ran, List.mem_cons_of_mem _ member,
            fun entry inside => List.mem_append_right _ (kept entry inside)⟩
      · rcases List.mem_cons.mp listed with same | listed
        · obtain ⟨rfl, rfl⟩ := Prod.mk.inj same
          exact ⟨first, inner, List.mem_cons_self, head⟩
        · obtain ⟨json, deeper, member, ran⟩ := tail.only key value listed
          exact ⟨json, deeper, List.mem_cons_of_mem _ member, ran⟩
      · rcases List.mem_append.mp member with inside | inside
        · exact ⟨name, first, value, inner, List.mem_cons_self, head, inside⟩
        · obtain ⟨key, json, value, deeper, listed, ran, inside⟩ := tail.within entry inside
          exact ⟨key, json, value, deeper, List.mem_cons_of_mem _ listed, ran, inside⟩

theorem read_of_fields (ran : fields members = .ok (read, found)) :
    Read (members.filter fun member => !isHeaderKey member.1) read found :=
  read_of_rootFields (fields_eq_rootFields members ▸ ran)

theorem exists_rootFields
    (each : ∀ key json, (key, json) ∈ members → ∃ read, field json = .ok read) :
    ∃ read, rootFields members = .ok read := by
  induction members with
  | nil => exact ⟨_, rfl⟩
  | cons member members induction =>
      obtain ⟨key, json⟩ := member
      obtain ⟨first, ran⟩ := each key json List.mem_cons_self
      obtain ⟨others, rest⟩ :=
        induction fun key json listed => each key json (List.mem_cons_of_mem _ listed)
      refine ⟨((key, first.1) :: others.1, first.2 ++ others.2), ?_⟩
      simp only [rootFields, ran, rest, bind, Except.bind, pure, Except.pure]

theorem exists_entities (each : ∀ item ∈ items, ∃ read, field item = .ok read) :
    ∃ read, entities items = .ok read := by
  induction items with
  | nil => exact ⟨_, by rw [entities]⟩
  | cons item items induction =>
      obtain ⟨first, ran⟩ := each item List.mem_cons_self
      obtain ⟨others, rest⟩ :=
        induction fun item listed => each item (List.mem_cons_of_mem _ listed)
      refine ⟨(first.1.targets ++ others.1, first.2 ++ others.2), ?_⟩
      simp only [entities, ran, rest, bind, Except.bind, pure, Except.pure]

theorem read_of_entities (ran : entities items = .ok (targets, found)) :
    (∀ item ∈ items, ∃ value inner, field item = .ok (value, inner) ∧
        ∀ entry ∈ inner, entry ∈ found) ∧
      ∀ entry ∈ found, ∃ item ∈ items, ∃ value inner, field item = .ok (value, inner) ∧
        entry ∈ inner := by
  induction items generalizing targets found with
  | nil =>
      rw [entities] at ran
      cases ran
      exact ⟨by simp, by simp⟩
  | cons item items induction =>
      obtain ⟨value, inner, others, later, head, rest, rfl, rfl⟩ := entities_cons_of_ok ran
      obtain ⟨each, within⟩ := induction rest
      refine ⟨fun other listed => ?_, fun entry member => ?_⟩
      · rcases List.mem_cons.mp listed with rfl | listed
        · exact ⟨value, inner, head, fun entry => List.mem_append_left _⟩
        · obtain ⟨value, deeper, ran, kept⟩ := each other listed
          exact ⟨value, deeper, ran,
            fun entry inside => List.mem_append_right _ (kept entry inside)⟩
      · rcases List.mem_append.mp member with inside | inside
        · exact ⟨item, List.mem_cons_self, value, inner, head, inside⟩
        · obtain ⟨other, listed, value, deeper, ran, inside⟩ := within entry inside
          exact ⟨other, List.mem_cons_of_mem _ listed, value, deeper, ran, inside⟩

theorem getElem?_of_entities (ran : entities items = .ok (targets, found))
    (all : items.all isEntity = true) {index : Nat} (standing : items[index]? = some (.obj members))
    {id tag : String} (head : header members = .ok (id, tag)) :
    targets[index]? = some (.persisted id) := by
  induction items generalizing targets found index with
  | nil => simp at standing
  | cons item items induction =>
      rw [List.all_cons, Bool.and_eq_true] at all
      obtain ⟨value, inner, others, later, front, rest, rfl, rfl⟩ := entities_cons_of_ok ran
      -- An entity is an object, and has one target.
      cases item with
      | obj first =>
          obtain ⟨text, type, -, -, named, -, rfl, -⟩ := field_obj_of_ok all.1 front
          cases index with
          | zero =>
              obtain rfl : first = members := by simpa using standing
              rw [head] at named
              obtain ⟨rfl, -⟩ := Prod.mk.inj (Except.ok.inj named)
              rfl
          | succ index =>
              simpa [FieldValue.targets] using induction rest all.2 (by simpa using standing)
      | _ => cases all.1

/-! ## The entities that are met -/

theorem met_obj_iff {inner : List (String × Json)} : Met (.obj members) inner ↔
    isEntity (.obj members) = true ∧ (inner = members ∨
      ∃ member ∈ members, isHeaderKey member.1 = false ∧ Met member.2 inner) := by
  constructor
  · rintro (entity | ⟨entity, listed, isField, met⟩ | _)
    · exact ⟨entity, .inl rfl⟩
    · exact ⟨entity, .inr ⟨_, listed, isField, met⟩⟩
  · rintro ⟨entity, rfl | ⟨member, listed, isField, met⟩⟩
    · exact .self entity
    · exact .within entity listed isField met

theorem met_arr_iff {inner : List (String × Json)} : Met (.arr items) inner ↔
    items.all isEntity = true ∧ ∃ item ∈ items, Met item inner := by
  constructor
  · rintro (_ | _ | ⟨all, listed, met⟩)
    exact ⟨all, _, listed, met⟩
  · rintro ⟨all, item, listed, met⟩
    exact .among all listed met

theorem not_met_of_plain {inner : List (String × Json)} (noObject : ∀ members, json ≠ .obj members)
    (noList : ∀ items, json ≠ .arr items) : ¬ Met json inner := by
  rintro (_ | _ | _)
  · exact noObject _ rfl
  · exact noObject _ rfl
  · exact noList _ rfl

/-- A value is read if the entities in it have ids and types. -/
theorem exists_field (json : Json)
    (labelled : ∀ members, Met json members → ∃ head, header members = .ok head) :
    ∃ read, field json = .ok read := by
  by_cases single : isEntity json = true
  · cases json with
    | obj members =>
        obtain ⟨head, named⟩ := labelled members (.self single)
        have each : ∀ key json, (key, json) ∈ members.filter (fun member => !isHeaderKey member.1) →
            ∃ read, field json = .ok read := by
          intro key json member
          obtain ⟨listed, isField⟩ := List.mem_filter.mp member
          exact exists_field json fun inner met =>
            labelled inner (.within single listed (by simpa using isField) met)
        obtain ⟨inner, inside⟩ := exists_rootFields each
        rw [← fields_eq_rootFields] at inside
        exact ⟨_, by rw [field, if_pos single, named, inside]; rfl⟩
    | _ => cases single
  · by_cases list : ∃ items, json = .arr items ∧ items.all isEntity = true
    · obtain ⟨items, rfl, all⟩ := list
      have each : ∀ item ∈ items, ∃ read, field item = .ok read := fun item listed =>
        exists_field item fun inner met => labelled inner (.among all listed met)
      obtain ⟨inner, inside⟩ := exists_entities each
      exact ⟨_, by rw [field, if_pos all, inside]; rfl⟩
    · exact ⟨_, field_of_plain (by simpa using single) fun items same =>
        by simpa using fun all => list ⟨items, same, all⟩⟩
termination_by sizeOf json
decreasing_by
  · have := List.sizeOf_lt_of_mem listed
    simp_all
    omega
  · have := List.sizeOf_lt_of_mem listed
    simp_all
    omega

/-- Whatever is found in a value is an occurrence of an entity that is met in it. -/
theorem occurs_of_field (json : Json) {value : FieldValue} {found : List (RecordId × Record)}
    (ran : field json = .ok (value, found)) (entry : RecordId × Record) (member : entry ∈ found) :
    ∃ members, Met json members ∧ Occurs members entry := by
  by_cases single : isEntity json = true
  · cases json with
    | obj members =>
        obtain ⟨id, tag, read, inner, head, inside, rfl, rfl⟩ := field_obj_of_ok single ran
        rcases List.mem_append.mp member with deeper | own
        · obtain ⟨key, value, read, found, listed, ran, deeper⟩ :=
            (read_of_fields inside).within entry deeper
          obtain ⟨listed, isField⟩ := List.mem_filter.mp listed
          obtain ⟨other, met, occurs⟩ := occurs_of_field value ran entry deeper
          exact ⟨other, .within single listed (by simpa using isField) met, occurs⟩
        · rw [List.mem_singleton.mp own]
          exact ⟨members, .self single, .intro head inside⟩
    | _ => cases single
  · by_cases list : ∃ items, json = .arr items ∧ items.all isEntity = true
    · obtain ⟨items, rfl, all⟩ := list
      obtain ⟨targets, inside, rfl⟩ := field_arr_of_ok all ran
      obtain ⟨item, listed, value, inner, ran, deeper⟩ := (read_of_entities inside).2 entry member
      obtain ⟨other, met, occurs⟩ := occurs_of_field item ran entry deeper
      exact ⟨other, .among all listed met, occurs⟩
    · rw [field_of_plain (by simpa using single) fun items same =>
        by simpa using fun all => list ⟨items, same, all⟩] at ran
      cases ran
      cases member
termination_by sizeOf json
decreasing_by
  · have := List.sizeOf_lt_of_mem listed
    simp_all
    omega
  · have := List.sizeOf_lt_of_mem listed
    simp_all
    omega

/-- Every entity that is met in a value is found. -/
theorem exists_of_met (met : Met json members) (ran : field json = .ok (value, found)) :
    ∃ entry ∈ found, Occurs members entry := by
  induction met generalizing value found with
  | self entity =>
      obtain ⟨id, tag, read, inner, head, inside, rfl, rfl⟩ := field_obj_of_ok entity ran
      exact ⟨_, List.mem_append_right _ (List.mem_singleton.mpr rfl), .intro head inside⟩
  | within entity listed isField met induction =>
      obtain ⟨id, tag, read, inner, head, inside, rfl, rfl⟩ := field_obj_of_ok entity ran
      obtain ⟨value, deeper, ran, -, kept⟩ := (read_of_fields inside).each _ _
        (List.mem_filter.mpr ⟨listed, by simpa using isField⟩)
      obtain ⟨entry, member, occurs⟩ := induction ran
      exact ⟨entry, List.mem_append_left _ (kept entry member), occurs⟩
  | among all listed met induction =>
      obtain ⟨targets, inside, rfl⟩ := field_arr_of_ok all ran
      obtain ⟨value, deeper, ran, kept⟩ := (read_of_entities inside).1 _ listed
      obtain ⟨entry, member, occurs⟩ := induction ran
      exact ⟨entry, kept entry member, occurs⟩

theorem lookup_of_mem {α : Type} {given : α} {listing : List (String × α)}
    (listed : (key, given) ∈ listing) (once : ∀ other, (key, other) ∈ listing → other = given) :
    listing.lookup key = some given := by
  cases looked : listing.lookup key with
  | none => simpa using List.lookup_eq_none_iff.mp looked _ listed
  | some other =>
      obtain ⟨front, back, split, -⟩ := List.lookup_eq_some_iff.mp looked
      rw [once other (by simp [split])]

theorem getElem?_ofList_of_mem (listed : (key, value) ∈ read)
    (once : ∀ other, (key, other) ∈ read → other = value) :
    (FieldMap.ofList read)[key]? = some value := by
  rw [FieldMap.getElem?_ofList]
  exact lookup_of_mem (List.mem_reverse.mpr listed) fun other again =>
    once other (List.mem_reverse.mp again)

/-- An entity is met when the members of the root of an answer are read. -/
def MetIn (root members : List (String × Json)) : Prop :=
  ∃ key json, (key, json) ∈ root ∧ Met json members

theorem metIn_iff {root : List (String × Json)} :
    MetIn root members ↔ ∃ member ∈ root, Met member.2 members := by
  constructor
  · rintro ⟨key, json, listed, met⟩
    exact ⟨_, listed, met⟩
  · rintro ⟨member, listed, met⟩
    exact ⟨_, _, listed, met⟩

/-- Whatever is found in the root is an occurrence of an entity that is met there. -/
theorem Read.met_of_mem {root : List (String × Json)} (reads : Read root read found)
    {entry : RecordId × Record} (member : entry ∈ found) :
    ∃ members, MetIn root members ∧ Occurs members entry := by
  obtain ⟨key, json, value, inner, listed, ran, deeper⟩ := reads.within entry member
  obtain ⟨members, met, occurs⟩ := occurs_of_field json ran entry deeper
  exact ⟨members, ⟨key, json, listed, met⟩, occurs⟩

theorem Read.exists_of_metIn {root : List (String × Json)} (reads : Read root read found)
    (met : MetIn root members) : ∃ entry ∈ found, Occurs members entry := by
  obtain ⟨key, json, listed, met⟩ := met
  obtain ⟨value, inner, ran, -, kept⟩ := reads.each key json listed
  obtain ⟨entry, member, occurs⟩ := exists_of_met met ran
  exact ⟨entry, kept entry member, occurs⟩

/-- An answer in order: no member of the root stands twice with different values, every entity has
an id and a type, and entities with the same id agree wherever both say something. -/
structure Orderly (root : List (String × Json)) : Prop where
  /-- A key of the root has one value. -/
  once : ∀ key left right, (key, left) ∈ root → (key, right) ∈ root → left = right
  /-- An entity has a text as its id and one as its type. -/
  labelled : ∀ members, MetIn root members →
    ∃ id tag, ("id", .str id) ∈ members ∧ ("__typename", .str tag) ∈ members
  /-- Entities that have the same id are the same. -/
  agree : ∀ left right id, MetIn root left → MetIn root right →
    ("id", id) ∈ left → ("id", id) ∈ right →
      ∀ key one two, (key, one) ∈ left → (key, two) ∈ right → one = two

/-- An answer is in order if no key stands twice in an object, and no id in two entities. -/
theorem Orderly.of_distinct {root : List (String × Json)} (keys : (root.map Prod.fst).Nodup)
    (labelled : ∀ members, MetIn root members → (members.map Prod.fst).Nodup ∧
      ∃ id tag, ("id", .str id) ∈ members ∧ ("__typename", .str tag) ∈ members)
    (apart : ∀ left right id, MetIn root left → MetIn root right →
      ("id", id) ∈ left → ("id", id) ∈ right → left = right) : Orderly root := by
  have once {members : List (String × Json)} (keys : (members.map Prod.fst).Nodup) (key : String)
      (one two : Json) (first : (key, one) ∈ members) (second : (key, two) ∈ members) :
      one = two :=
    (Prod.mk.inj (List.inj_on_of_nodup_map keys first second rfl)).2
  refine ⟨once keys, fun members met => (labelled members met).2, ?_⟩
  intro left right id metLeft metRight named namedRight
  obtain rfl := apart left right id metLeft metRight named namedRight
  exact once (labelled left metLeft).1

theorem Orderly.header_of_met {root : List (String × Json)} (orderly : Orderly root)
    (met : MetIn root members) {id tag : String} (named : ("id", .str id) ∈ members)
    (typed : ("__typename", .str tag) ∈ members) : header members = .ok (id, tag) := by
  have once (key : String) (one two : Json) (first : (key, one) ∈ members)
      (second : (key, two) ∈ members) : one = two :=
    orderly.agree members members _ met met named named key one two first second
  rw [header, lookup_of_mem named fun other second => once _ _ _ second named]
  simp only [lookup_of_mem typed fun other second => once _ _ _ second typed]

/-! ## Collecting -/

theorem getElem?_collectOne (collected : Records) (occurrence : RecordId × Record)
    (id : RecordId) :
    (collectOne collected occurrence)[id]? =
      if occurrence.1 = id then
        some (collected[id]?.elim occurrence.2 fun record =>
          { record with fields := record.fields.merge occurrence.2.fields })
      else collected[id]? := by
  by_cases same : occurrence.1 = id
  · subst same
    rw [collectOne]
    split <;> simp_all
  · rw [collectOne]
    split <;> simp [Std.ExtTreeMap.getElem?_insert, same]

theorem collect_snoc (occurrences : List (RecordId × Record)) (occurrence : RecordId × Record) :
    collect (occurrences ++ [occurrence]) = collectOne (collect occurrences) occurrence := by
  rw [collect, collect, List.foldl_append, List.foldl_cons, List.foldl_nil]

/-- If all occurrences of an entity have a type then so has its record. -/
theorem typeTag_of_collect {occurrences : List (RecordId × Record)} {id : RecordId} {tag : String}
    (typed : ∀ entry ∈ occurrences, entry.1 = id → entry.2.typeTag = tag) {record : Record}
    (collected : (collect occurrences)[id]? = some record) : record.typeTag = tag := by
  induction occurrences using List.reverseRecOn generalizing record with
  | nil => simp [collect] at collected
  | append_singleton occurrences last induction =>
      have earlier {before : Record} (found : (collect occurrences)[id]? = some before) :
          before.typeTag = tag :=
        induction (fun entry member => typed entry (List.mem_append_left _ member)) found
      rw [collect_snoc, getElem?_collectOne] at collected
      split at collected
      case isFalse => exact earlier collected
      case isTrue own =>
        cases found : (collect occurrences)[id]? with
        | none =>
            obtain rfl : last.2 = record := by simpa [found] using collected
            exact typed last (by simp) own
        | some before =>
            obtain rfl : { before with fields := before.fields.merge last.2.fields } = record := by
              simpa [found] using collected
            exact @earlier before found

/-- A field of a record has the value that its last occurrence with that field gave it. -/
theorem get?_collect {occurrences : List (RecordId × Record)} {id : RecordId} {record : Record}
    (collected : (collect occurrences)[id]? = some record) (key : String) :
    record.get? key = (occurrences.filterMap fun entry =>
      if entry.1 = id then entry.2.get? key else none).getLast? := by
  induction occurrences using List.reverseRecOn generalizing record with
  | nil => simp [collect] at collected
  | append_singleton occurrences last induction =>
      rw [collect_snoc, getElem?_collectOne] at collected
      rw [List.filterMap_append, List.getLast?_append]
      split at collected
      case isFalse other => simpa [other] using induction collected
      case isTrue own =>
        cases found : (collect occurrences)[id]? with
        | none =>
            obtain rfl : last.2 = record := by simpa [found] using collected
            have absent : id ∉ occurrences.map Prod.fst := by
              simp [← isSome_getElem?_collect, found]
            have none : occurrences.filterMap (fun entry =>
                if entry.1 = id then entry.2.get? key else none) = [] := by
              rw [List.filterMap_eq_nil_iff]
              intro entry member
              refine if_neg fun same : entry.1 = id => absent ?_
              exact same ▸ List.mem_map_of_mem member
            rw [none]
            cases named : last.2.get? key <;> simp [own, named]
        | some before =>
            obtain rfl : { before with fields := before.fields.merge last.2.fields } = record := by
              simpa [found] using collected
            have merged := Record.get?_merge before last.2 key
            rw [induction found] at merged
            change (before.merge last.2).get? key = _
            rw [merged]
            cases named : last.2.get? key <;> simp [own, named]

/-- If no occurrences of an entity disagree about a field, and one has it, then so does the
record. -/
theorem get?_of_collect {occurrences : List (RecordId × Record)} {id : RecordId}
    (agree : ∀ entry ∈ occurrences, entry.1 = id → ∀ other, entry.2.get? key = some other →
      other = value)
    {record : Record} (collected : (collect occurrences)[id]? = some record)
    {occurrence : RecordId × Record} (member : occurrence ∈ occurrences) (own : occurrence.1 = id)
    (named : occurrence.2.get? key = some value) : record.get? key = some value := by
  rw [get?_collect collected]
  have listed : value ∈ occurrences.filterMap fun entry =>
      if entry.1 = id then entry.2.get? key else none :=
    List.mem_filterMap.mpr ⟨occurrence, member, by rw [if_pos own, named]⟩
  cases last : (occurrences.filterMap fun entry =>
      if entry.1 = id then entry.2.get? key else none).getLast? with
  | none =>
      rw [List.getLast?_eq_none_iff] at last
      simp [last] at listed
  | some other =>
      obtain ⟨entry, member, given⟩ := List.mem_filterMap.mp (List.mem_of_getLast? last)
      obtain ⟨own, given⟩ := Option.ite_none_right_eq_some.mp given
      rw [agree entry member own other given]

variable {root : List (String × Json)} {normalized : Normalized} {id tag : String}

namespace Orderly

theorem exists_header (orderly : Orderly root) (met : MetIn root members)
    (named : ("id", .str id) ∈ members) :
    ∃ tag, ("__typename", .str tag) ∈ members ∧ header members = .ok (id, tag) := by
  obtain ⟨-, tag, -, typed⟩ := orderly.labelled members met
  exact ⟨tag, typed, orderly.header_of_met met named typed⟩

theorem exists_field (orderly : Orderly root)
    (within : ∀ members, Met json members → MetIn root members) :
    ∃ value found, field json = .ok (value, found) := by
  obtain ⟨read, ran⟩ := Normalized.exists_field json fun members met => by
    obtain ⟨id, -, named, -⟩ := orderly.labelled members (within members met)
    obtain ⟨tag, -, head⟩ := orderly.exists_header (within members met) named
    exact ⟨_, head⟩
  exact ⟨read.1, read.2, ran⟩

/-- An answer in order is turned into records. -/
theorem exists_normalized (orderly : Orderly root) :
    ∃ normalized, ofJson (.obj root) = .ok normalized := by
  obtain ⟨read, ran⟩ := exists_rootFields fun key json listed => by
    obtain ⟨value, found, ran⟩ :=
      orderly.exists_field fun members met => ⟨key, json, listed, met⟩
    exact ⟨_, ran⟩
  exact ⟨_, by rw [ofJson, ran]; rfl⟩

/-- A field of the root has the value that was read of it. -/
theorem root_of_mem (orderly : Orderly root) (ran : ofJson (.obj root) = .ok normalized)
    {inner : List (RecordId × Record)} (listed : (key, json) ∈ root)
    (given : field json = .ok (value, inner)) : normalized.root[key]? = some value := by
  obtain ⟨read, found, inside, rfl⟩ := ofJson_of_ok ran
  have reads := read_of_rootFields inside
  have once (other : FieldValue) (twice : (key, other) ∈ read) : other = value := by
    obtain ⟨second, deeper, listedTwice, again⟩ := reads.only key other twice
    obtain rfl := orderly.once key json second listed listedTwice
    exact (Prod.mk.inj (Except.ok.inj (again.symm.trans given))).1
  obtain ⟨own, deeper, same, member, kept⟩ := reads.each key json listed
  exact getElem?_ofList_of_mem (once own member ▸ member) once

/-- All occurrences of an id have the type of the entity and no other values of its fields. -/
theorem agree_of_occurs (orderly : Orderly root) (met : MetIn root members)
    (named : ("id", .str id) ∈ members) (typed : ("__typename", .str tag) ∈ members)
    {others : List (String × Json)} (metOther : MetIn root others) {entry : RecordId × Record}
    (occurs : Occurs others entry) (own : entry.1 = .persisted id) :
    entry.2.typeTag = tag ∧ ∀ key json value inner, (key, json) ∈ members →
      field json = .ok (value, inner) → ∀ other, entry.2.get? key = some other →
        other = value := by
  obtain ⟨otherId, otherTag, otherNamed, otherTyped⟩ := orderly.labelled others metOther
  cases occurs with
  | intro head inside =>
      rw [orderly.header_of_met metOther otherNamed otherTyped] at head
      obtain ⟨rfl, rfl⟩ := Prod.mk.inj (Except.ok.inj head)
      obtain rfl := RecordId.persisted.inj own
      have agree := orderly.agree others members _ metOther met otherNamed named
      refine ⟨Json.str.inj (agree _ _ _ otherTyped typed),
        fun key json value inner listed given other looked => ?_⟩
      obtain ⟨source, deeper, member, again⟩ :=
        (read_of_fields inside).only key other (FieldMap.mem_of_getElem?_ofList looked)
      obtain rfl := agree key source json (List.mem_filter.mp member).1 listed
      exact (Prod.mk.inj (Except.ok.inj (again.symm.trans given))).1

theorem get?_of_occurs (orderly : Orderly root) (met : MetIn root members)
    (named : ("id", .str id) ∈ members) (typed : ("__typename", .str tag) ∈ members)
    {entry : RecordId × Record} (occurs : Occurs members entry) :
    entry.1 = .persisted id ∧ ∀ key json value inner, (key, json) ∈ members →
      isHeaderKey key = false → field json = .ok (value, inner) →
        entry.2.get? key = some value := by
  cases occurs with
  | @intro _ _ read found head inside =>
      rw [orderly.header_of_met met named typed] at head
      obtain ⟨rfl, rfl⟩ := Prod.mk.inj (Except.ok.inj head)
      refine ⟨rfl, fun key json value inner listed isField given => ?_⟩
      have reads := read_of_fields inside
      have once (other : FieldValue) (twice : (key, other) ∈ read) : other = value := by
        obtain ⟨source, deeper, member, again⟩ := reads.only key other twice
        obtain rfl := orderly.agree members members _ met met named named key source json
          (List.mem_filter.mp member).1 listed
        exact (Prod.mk.inj (Except.ok.inj (again.symm.trans given))).1
      obtain ⟨own, deeper, same, member, kept⟩ := reads.each key json
        (List.mem_filter.mpr ⟨listed, by simpa using isField⟩)
      exact getElem?_ofList_of_mem (once own member ▸ member) once

/-- An entity that is met has a record with its type and with its fields. -/
theorem exists_record (orderly : Orderly root) (ran : ofJson (.obj root) = .ok normalized)
    (met : MetIn root members) (named : ("id", .str id) ∈ members)
    (typed : ("__typename", .str tag) ∈ members) :
    ∃ record, normalized.snapshot.get? (.persisted id) = some record ∧ record.typeTag = tag ∧
      ∀ key json value inner, (key, json) ∈ members → isHeaderKey key = false →
        field json = .ok (value, inner) → record.get? key = some value := by
  obtain ⟨read, found, inside, rfl⟩ := ofJson_of_ok ran
  have reads := read_of_rootFields inside
  have agree (entry : RecordId × Record) (member : entry ∈ found)
      (own : entry.1 = .persisted id) : entry.2.typeTag = tag ∧
        ∀ key json value inner, (key, json) ∈ members → field json = .ok (value, inner) →
          ∀ other, entry.2.get? key = some other → other = value := by
    obtain ⟨others, metOther, occurs⟩ := reads.met_of_mem member
    exact orderly.agree_of_occurs met named typed metOther occurs own
  obtain ⟨entry, member, occurs⟩ := reads.exists_of_metIn met
  obtain ⟨own, looked⟩ := orderly.get?_of_occurs met named typed occurs
  have present : RecordId.persisted id ∈ found.map Prod.fst :=
    List.mem_map.mpr ⟨entry, member, own⟩
  obtain ⟨record, collected⟩ :=
    Option.isSome_iff_exists.mp ((isSome_getElem?_collect found _).mpr present)
  refine ⟨record, (lookup_toList _ _).trans collected,
    typeTag_of_collect (fun entry inside same => (agree entry inside same).1) collected,
    fun key json value inner listed isField given => ?_⟩
  exact get?_of_collect
    (fun entry inside same => (agree entry inside same).2 key json value inner listed given)
    collected member own (looked key json value inner listed isField given)

end Orderly

end Normalized

end RealmDesk
