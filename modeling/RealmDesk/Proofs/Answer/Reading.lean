import RealmDesk.Answer.Error

/-!
# Steps of the reading of an answer

What each clause of the reading did if it succeeded. Whatever is proved of answers takes the reading
apart with these.
-/

namespace RealmDesk.Normalized

variable {members : List (String × Json)} {items : List Json} {key : String} {json : Json}
  {value : FieldValue} {read : List (String × FieldValue)} {targets : List RecordId}
  {found : List (RecordId × Record)}

theorem both_of_ok {α β γ : Type} {combine : α → β → γ} {both : γ}
    {first : Except NormalizeError (α × List (RecordId × Record))}
    {second : Except NormalizeError (β × List (RecordId × Record))}
    (ran : (do
      let (head, found) ← first
      let (tail, later) ← second
      return (combine head tail, found ++ later)) = Except.ok (both, found)) :
    ∃ head inner tail later, first = .ok (head, inner) ∧ second = .ok (tail, later) ∧
      both = combine head tail ∧ found = inner ++ later := by
  cases first with
  | error => simp [bind, Except.bind] at ran
  | ok one =>
      cases second with
      | error => simp [bind, Except.bind] at ran
      | ok two =>
          simp only [bind, Except.bind, pure, Except.pure, Except.ok.injEq, Prod.mk.injEq] at ran
          exact ⟨_, _, _, _, rfl, rfl, ran.1.symm, ran.2.symm⟩

theorem field_obj_of_ok (entity : isEntity (.obj members) = true)
    (ran : field (.obj members) = .ok (value, found)) :
    ∃ id tag read inner, header members = .ok (id, tag) ∧ fields members = .ok (read, inner) ∧
      value = .link (.persisted id) ∧
      found = inner ++ [(.persisted id, ⟨tag, FieldMap.ofList read⟩)] := by
  rw [field, if_pos entity] at ran
  cases head : header members with
  | error => simp [head, bind, Except.bind] at ran
  | ok named =>
      cases inside : fields members with
      | error => simp [head, inside, bind, Except.bind] at ran
      | ok inner =>
          simp only [head, inside, bind, Except.bind, pure, Except.pure, Except.ok.injEq,
            Prod.mk.injEq] at ran
          exact ⟨_, _, _, _, rfl, rfl, ran.1.symm, ran.2.symm⟩

theorem field_arr_of_ok (all : items.all isEntity = true)
    (ran : field (.arr items) = .ok (value, found)) :
    ∃ targets, entities items = .ok (targets, found) ∧ value = .links targets := by
  rw [field, if_pos all] at ran
  cases inside : entities items with
  | error => simp [inside, bind, Except.bind] at ran
  | ok inner =>
      simp only [inside, bind, Except.bind, pure, Except.pure, Except.ok.injEq,
        Prod.mk.injEq] at ran
      obtain ⟨rfl, rfl⟩ := ran
      exact ⟨_, rfl, rfl⟩

/-- A value that is no entity and no list of entities stays as it is. -/
theorem field_of_plain (single : isEntity json = false)
    (list : ∀ items, json = .arr items → items.all isEntity = false) :
    field json = .ok (.scalar json, []) := by
  cases json with
  | obj members => rw [field, if_neg (by simp [single])]
  | arr items => rw [field, if_neg (by simp [list items rfl])]
  | _ => rfl

theorem entities_cons_of_ok (ran : entities (json :: items) = .ok (targets, found)) :
    ∃ value inner others later, field json = .ok (value, inner) ∧
      entities items = .ok (others, later) ∧ targets = value.targets ++ others ∧
      found = inner ++ later := by
  rw [entities] at ran
  exact both_of_ok ran

theorem rootFields_cons_of_ok (ran : rootFields ((key, json) :: members) = .ok (read, found)) :
    ∃ value inner others later, field json = .ok (value, inner) ∧
      rootFields members = .ok (others, later) ∧ read = (key, value) :: others ∧
      found = inner ++ later :=
  both_of_ok ran

theorem fields_cons_of_ok (isField : isHeaderKey key = false)
    (ran : fields ((key, json) :: members) = .ok (read, found)) :
    ∃ value inner others later, field json = .ok (value, inner) ∧
      fields members = .ok (others, later) ∧ read = (key, value) :: others ∧
      found = inner ++ later := by
  rw [fields, if_neg (by simp [isField])] at ran
  exact both_of_ok ran

/-- The members of an entity are read as those of the root are, its header left out. -/
theorem fields_eq_rootFields (members : List (String × Json)) :
    fields members = rootFields (members.filter fun member => !isHeaderKey member.1) := by
  induction members with
  | nil => rfl
  | cons member members induction =>
      obtain ⟨key, json⟩ := member
      cases isHeader : isHeaderKey key with
      | true => rw [fields, if_pos isHeader, induction, List.filter_cons_of_neg (by simpa)]
      | false =>
          rw [fields, if_neg (by simp [isHeader]), induction,
            List.filter_cons_of_pos (by simp [isHeader])]
          rfl

theorem ofJson_of_ok {root : List (String × Json)} {normalized : Normalized}
    (ran : ofJson (.obj root) = .ok normalized) :
    ∃ read found, rootFields root = .ok (read, found) ∧
      normalized = ⟨FieldMap.ofList read, ⟨(collect found).toList⟩⟩ := by
  cases inside : rootFields root with
  | error => simp [ofJson, inside, bind, Except.bind] at ran
  | ok inner =>
      simp only [ofJson, inside, bind, Except.bind, pure, Except.pure, Except.ok.injEq] at ran
      exact ⟨_, _, rfl, ran.symm⟩

/-- Data that arrives brings the records that it is turned into. -/
theorem ofResult_ok {data : Json} {normalized : Normalized} :
    ofResult (.ok data) = .ok normalized ↔ ofJson data = .ok normalized := by
  rw [ofResult]
  cases ofJson data <;> simp

end RealmDesk.Normalized
