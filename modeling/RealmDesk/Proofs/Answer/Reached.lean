import RealmDesk.Proofs.Answer.Entities

/-!
# The entities of an answer in order

The entities that the reading of an answer meets, listed in the order in which it leaves them: an
entity after everything within it, the members of an object and the items of a list one after the
other. If the reading succeeds then its occurrences are the own records of these entities, in the
same order, and every field keeps what stands there: an entity as a link, a list of nothing but
entities as their links, and anything else as it is.
-/

namespace RealmDesk

namespace Normalized

mutual

/-- The entities that a value leads to, each by its members and after the entities within it. -/
def reached : Json → List (List (String × Json))
  | .obj members =>
      if isEntity (.obj members) then reachedFields members ++ [members] else []
  | .arr items => if items.all isEntity then reachedItems items else []
  | _ => []

/-- The entities that the fields of an entity lead to. Its header is no field: an id and a type are
texts, and lead to nothing. -/
def reachedFields : List (String × Json) → List (List (String × Json))
  | [] => []
  | (key, value) :: members =>
      if isHeaderKey key then reachedFields members else reached value ++ reachedFields members

/-- The entities that the items of a list lead to. -/
def reachedItems : List Json → List (List (String × Json))
  | [] => []
  | item :: items => reached item ++ reachedItems items

end

/-- The entities that the root of an answer leads to. -/
def reachedFrom (root : List (String × Json)) : List (List (String × Json)) :=
  root.flatMap fun member => reached member.2

/-- The id of an entity. -/
def idOf (entity : Json) : RecordId :=
  .persisted ((entity.get "id").str?.getD "")

/-- The type of an entity. -/
def typeOf (entity : Json) : String :=
  (entity.get "__typename").str?.getD ""

/-- What is kept of a value: an entity as a link, a list of nothing but entities as their links, and
anything else as it is. -/
def kept : Json → FieldValue
  | .obj members =>
      if isEntity (.obj members) then .link (idOf (.obj members)) else .scalar (.obj members)
  | .arr items => if items.all isEntity then .links (items.map idOf) else .scalar (.arr items)
  | other => .scalar other

/-- What is kept of each member of an object. -/
def keptMembers (members : List (String × Json)) : List (String × FieldValue) :=
  members.map fun member => (member.1, kept member.2)

/-- The fields of an entity: its members without its header. -/
def fieldsOf (members : List (String × Json)) : List (String × Json) :=
  members.filter fun member => !isHeaderKey member.1

/-- The own record of an entity, under its id. -/
def ownRecord (members : List (String × Json)) : RecordId × Record :=
  (idOf (.obj members), ⟨typeOf (.obj members), FieldMap.ofList (keptMembers (fieldsOf members))⟩)

variable {members inner root : List (String × Json)} {items : List Json} {key : String}
  {json : Json} {value : FieldValue} {read : List (String × FieldValue)}
  {targets : List RecordId} {found : List (RecordId × Record)}

mutual

/-- The entities that are met in a value are those that are reached. -/
theorem met_iff_mem_reached : ∀ {json : Json}, Met json inner ↔ inner ∈ reached json
  | .obj members => by
      rw [met_obj_iff, reached]
      split
      case isTrue entity =>
        rw [List.mem_append, List.mem_singleton, ← mem_reachedFields_iff]
        simp [entity, or_comm]
      case isFalse single => simp [single]
  | .arr items => by
      rw [met_arr_iff, reached]
      split
      case isTrue all => rw [← mem_reachedItems_iff, and_iff_right all]
      case isFalse mixed => simp [mixed]
  | .null | .bool _ | .int _ | .double _ | .str _ =>
      iff_of_false (not_met_of_plain (by simp) (by simp)) (by simp [reached])

theorem mem_reachedFields_iff : ∀ {members : List (String × Json)},
    (∃ member ∈ members, isHeaderKey member.1 = false ∧ Met member.2 inner) ↔
      inner ∈ reachedFields members
  | [] => by simp [reachedFields]
  | (key, json) :: members => by
      rw [List.exists_mem_cons_iff, mem_reachedFields_iff, met_iff_mem_reached, reachedFields]
      cases isHeaderKey key <;> simp

theorem mem_reachedItems_iff : ∀ {items : List Json},
    (∃ item ∈ items, Met item inner) ↔ inner ∈ reachedItems items
  | [] => by simp [reachedItems]
  | item :: items => by
      rw [List.exists_mem_cons_iff, mem_reachedItems_iff, met_iff_mem_reached, reachedItems,
        List.mem_append]

end

theorem metIn_iff_mem_reachedFrom : MetIn root inner ↔ inner ∈ reachedFrom root := by
  simp only [metIn_iff, met_iff_mem_reached, reachedFrom, List.mem_flatMap]

theorem header_eq_ok_iff {id tag : String} : header members = .ok (id, tag) ↔
    members.lookup "id" = some (.str id) ∧ members.lookup "__typename" = some (.str tag) := by
  constructor
  · intro head
    rw [header] at head
    split at head
    case h_1 text named =>
      split at head
      case h_1 type typed =>
        obtain ⟨rfl, rfl⟩ := Prod.mk.inj (Except.ok.inj head)
        exact ⟨named, typed⟩
      case h_2 => cases head
    case h_2 => cases head
  · rintro ⟨named, typed⟩
    simp only [header, named, typed]

theorem idOf_of_lookup {id : String} (named : members.lookup "id" = some (.str id)) :
    idOf (.obj members) = .persisted id := by
  rw [idOf, Json.get, Json.member?, named]
  rfl

theorem typeOf_of_lookup {tag : String} (typed : members.lookup "__typename" = some (.str tag)) :
    typeOf (.obj members) = tag := by
  rw [typeOf, Json.get, Json.member?, typed]
  rfl

/-- A value that is an entity has one target, its id. -/
theorem targets_kept_of_entity (entity : isEntity json = true) :
    (kept json).targets = [idOf json] := by
  cases json with
  | obj members => rw [kept, if_pos entity, FieldValue.targets]
  | _ => cases entity

mutual

/-- What is read of a value is what is kept of it, and the own records of the entities that it
leads to are found. -/
theorem eq_of_field : ∀ {json : Json} {value : FieldValue} {found : List (RecordId × Record)},
    field json = .ok (value, found) → value = kept json ∧ found = (reached json).map ownRecord
  | .obj members, value, found, ran => by
      by_cases entity : isEntity (.obj members) = true
      · obtain ⟨id, tag, read, inner, head, inside, rfl, rfl⟩ := field_obj_of_ok entity ran
        obtain ⟨rfl, rfl⟩ := eq_of_fields inside
        obtain ⟨named, typed⟩ := header_eq_ok_iff.mp head
        rw [kept, if_pos entity, reached, if_pos entity, List.map_append, List.map_singleton,
          ownRecord, idOf_of_lookup named, typeOf_of_lookup typed]
        exact ⟨rfl, rfl⟩
      · rw [field, if_neg entity] at ran
        cases ran
        rw [kept, if_neg entity, reached, if_neg entity]
        exact ⟨rfl, rfl⟩
  | .arr items, value, found, ran => by
      by_cases all : items.all isEntity = true
      · obtain ⟨targets, inside, rfl⟩ := field_arr_of_ok all ran
        obtain ⟨rfl, rfl⟩ := eq_of_entities all inside
        rw [kept, if_pos all, reached, if_pos all]
        exact ⟨rfl, rfl⟩
      · rw [field, if_neg all] at ran
        cases ran
        rw [kept, if_neg all, reached, if_neg all]
        exact ⟨rfl, rfl⟩
  | .null, _, _, ran | .bool _, _, _, ran | .int _, _, _, ran | .double _, _, _, ran
  | .str _, _, _, ran => by
      cases ran
      exact ⟨rfl, rfl⟩

theorem eq_of_fields : ∀ {members : List (String × Json)} {read : List (String × FieldValue)}
    {found : List (RecordId × Record)}, fields members = .ok (read, found) →
      read = keptMembers (fieldsOf members) ∧ found = (reachedFields members).map ownRecord
  | [], _, _, ran => by
      cases ran
      exact ⟨rfl, rfl⟩
  | (key, json) :: members, read, found, ran => by
      cases isHeader : isHeaderKey key with
      | true =>
          rw [fields, if_pos isHeader] at ran
          obtain ⟨rfl, rfl⟩ := eq_of_fields ran
          simp [fieldsOf, reachedFields, isHeader]
      | false =>
          obtain ⟨value, inner, others, later, head, rest, rfl, rfl⟩ :=
            fields_cons_of_ok isHeader ran
          obtain ⟨rfl, rfl⟩ := eq_of_field head
          obtain ⟨rfl, rfl⟩ := eq_of_fields rest
          simp [keptMembers, fieldsOf, reachedFields, isHeader]

theorem eq_of_entities : ∀ {items : List Json} {targets : List RecordId}
    {found : List (RecordId × Record)}, items.all isEntity = true →
      entities items = .ok (targets, found) →
        targets = items.map idOf ∧ found = (reachedItems items).map ownRecord
  | [], _, _, _, ran => by
      rw [entities] at ran
      cases ran
      exact ⟨rfl, rfl⟩
  | item :: items, targets, found, all, ran => by
      rw [List.all_cons, Bool.and_eq_true] at all
      obtain ⟨value, inner, others, later, head, rest, rfl, rfl⟩ := entities_cons_of_ok ran
      obtain ⟨rfl, rfl⟩ := eq_of_field head
      obtain ⟨rfl, rfl⟩ := eq_of_entities all.2 rest
      rw [targets_kept_of_entity all.1, reachedItems, List.map_append]
      exact ⟨rfl, rfl⟩

end

theorem eq_of_rootFields (ran : rootFields members = .ok (read, found)) :
    read = keptMembers members ∧ found = (reachedFrom members).map ownRecord := by
  induction members generalizing read found with
  | nil =>
      cases ran
      exact ⟨rfl, rfl⟩
  | cons member members induction =>
      obtain ⟨key, json⟩ := member
      obtain ⟨value, inner, others, later, head, rest, rfl, rfl⟩ := rootFields_cons_of_ok ran
      obtain ⟨rfl, rfl⟩ := eq_of_field head
      obtain ⟨rfl, rfl⟩ := induction rest
      simp [keptMembers, reachedFrom]

end Normalized

end RealmDesk
