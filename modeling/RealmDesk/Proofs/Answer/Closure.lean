import Mathlib.Data.List.Induction
import RealmDesk.Proofs.Answer.Reading
import RealmDesk.Proofs.Store.View

/-!
# Closure of normalized answers

The records of a normalized answer have ids of the server, and whatever the answer links to is one
of its records. The argument follows the tree of the answer: every occurrence of an entity comes
after the entities within it.
-/

namespace RealmDesk

/-- Some occurrences of entities have saved ids, and link to nothing but each other. -/
structure ClosedOccurrences (occurrences : List (RecordId × Record)) : Prop where
  /-- The server gave every id. -/
  saved : ∀ entry ∈ occurrences, entry.1.isPending = false
  /-- A link leads to one of the occurrences. -/
  linked : ∀ entry ∈ occurrences, ∀ field target, entry.2.LinksTo field target →
    target ∈ occurrences.map Prod.fst

namespace ClosedOccurrences

theorem nil : ClosedOccurrences [] :=
  ⟨nofun, nofun⟩

theorem append {first later : List (RecordId × Record)} (closed : ClosedOccurrences first)
    (closedLater : ClosedOccurrences later) : ClosedOccurrences (first ++ later) := by
  refine ⟨fun entry member => ?_, fun entry member field target linked => ?_⟩
  · rcases List.mem_append.mp member with member | member
    · exact closed.saved entry member
    · exact closedLater.saved entry member
  · rw [List.map_append, List.mem_append]
    rcases List.mem_append.mp member with member | member
    · exact .inl (closed.linked entry member field target linked)
    · exact .inr (closedLater.linked entry member field target linked)

theorem snoc {occurrences : List (RecordId × Record)} (closed : ClosedOccurrences occurrences)
    {text : String} {record : Record}
    (within : ∀ field target, record.LinksTo field target → target ∈ occurrences.map Prod.fst) :
    ClosedOccurrences (occurrences ++ [(.persisted text, record)]) := by
  refine ⟨fun entry member => ?_, fun entry member field target linked => ?_⟩
  · rcases List.mem_append.mp member with member | member
    · exact closed.saved entry member
    · rw [List.mem_singleton.mp member]
      rfl
  · rw [List.map_append, List.mem_append]
    rcases List.mem_append.mp member with member | member
    · exact .inl (closed.linked entry member field target linked)
    · rw [List.mem_singleton.mp member] at linked
      exact .inl (within field target linked)

end ClosedOccurrences

theorem FieldMap.getElem?_ofList (fields : List (String × FieldValue)) (name : String) :
    (ofList fields)[name]? = fields.reverse.lookup name := by
  induction fields using List.reverseRecOn with
  | nil => simp [ofList]
  | append_singleton fields field induction =>
      rw [ofList, List.foldl_append, List.foldl_cons, List.foldl_nil,
        Std.ExtTreeMap.getElem?_insert, List.reverse_append, List.reverse_singleton,
        List.singleton_append, List.lookup_cons]
      by_cases same : name = field.1
      · simp [same]
      · rw [if_neg (by simpa using Ne.symm same), beq_eq_false_iff_ne.mpr same]
        exact induction

theorem FieldMap.mem_of_getElem?_ofList {fields : List (String × FieldValue)} {name : String}
    {value : FieldValue} (found : (ofList fields)[name]? = some value) :
    (name, value) ∈ fields := by
  rw [getElem?_ofList] at found
  obtain ⟨front, back, split, -⟩ := List.lookup_eq_some_iff.mp found
  exact List.mem_reverse.mp (by simp [split])

namespace Normalized

/-- What the reading of one value guarantees. -/
private def FieldReads (value : Json) : Prop :=
  ∀ read found, field value = .ok (read, found) →
    ClosedOccurrences found ∧ ∀ target ∈ read.targets, target ∈ found.map Prod.fst

/-- What the reading of a list of entities guarantees. -/
private def EntitiesRead (items : List Json) : Prop :=
  ∀ read found, entities items = .ok (read, found) →
    ClosedOccurrences found ∧ ∀ target ∈ read, target ∈ found.map Prod.fst

/-- What the reading of the members of an object guarantees. -/
private def FieldsRead
    (reading : Except NormalizeError (List (String × FieldValue) × List (RecordId × Record))) :
    Prop :=
  ∀ read found, reading = .ok (read, found) →
    ClosedOccurrences found ∧
      ∀ entry ∈ read, ∀ target ∈ entry.2.targets, target ∈ found.map Prod.fst

private theorem fieldsRead_nil : FieldsRead (.ok ([], [])) := by
  intro read found same
  cases same
  exact ⟨.nil, nofun⟩

private theorem fieldsRead_cons {key : String} {value : Json}
    {others : Except NormalizeError (List (String × FieldValue) × List (RecordId × Record))}
    (first : FieldReads value) (rest : FieldsRead others) :
    FieldsRead (do
      let (first, found) ← field value
      let (others, later) ← others
      return ((key, first) :: others, found ++ later)) := by
  intro read found same
  obtain ⟨head, inner, tail, later, firstRead, restRead, rfl, rfl⟩ : ∃ head inner tail later,
      field value = .ok (head, inner) ∧ others = .ok (tail, later) ∧
        read = (key, head) :: tail ∧ found = inner ++ later :=
    both_of_ok same
  obtain ⟨closed, within⟩ := first _ _ firstRead
  obtain ⟨closedLater, withinLater⟩ := rest _ _ restRead
  refine ⟨closed.append closedLater, fun entry member target linked => ?_⟩
  rw [List.map_append, List.mem_append]
  rcases List.mem_cons.mp member with rfl | member
  · exact .inl (within target linked)
  · exact .inr (withinLater entry member target linked)

private theorem fieldReads_of_plain {value json : Json}
    (plain : field value = .ok (.scalar json, [])) : FieldReads value := by
  intro read found same
  rw [plain] at same
  obtain ⟨rfl, rfl⟩ := Prod.mk.inj (Except.ok.inj same)
  exact ⟨.nil, by simp [FieldValue.targets]⟩

private theorem fieldReads_entity {members : List (String × Json)}
    (entity : isEntity (.obj members) = true) (rest : FieldsRead (fields members)) :
    FieldReads (.obj members) := by
  intro read found same
  obtain ⟨id, tag, inner, before, -, inside, rfl, rfl⟩ := field_obj_of_ok entity same
  obtain ⟨closed, within⟩ := rest _ _ inside
  refine ⟨closed.snoc fun name target linked => ?_, fun target member => ?_⟩
  · obtain ⟨value, named, member⟩ := linked
    exact within _ (FieldMap.mem_of_getElem?_ofList named) target member
  · simp only [FieldValue.targets, List.mem_singleton] at member
    simp [member]

private theorem entitiesRead_cons {item : Json} {items : List Json} (first : FieldReads item)
    (rest : EntitiesRead items) : EntitiesRead (item :: items) := by
  intro read found same
  obtain ⟨head, inner, tail, later, firstRead, restRead, rfl, rfl⟩ := entities_cons_of_ok same
  obtain ⟨closed, within⟩ := first _ _ firstRead
  obtain ⟨closedLater, withinLater⟩ := rest _ _ restRead
  refine ⟨closed.append closedLater, fun target member => ?_⟩
  rw [List.map_append, List.mem_append]
  rcases List.mem_append.mp member with member | member
  · exact .inl (within target member)
  · exact .inr (withinLater target member)

/-- Every value that is read links to nothing but the entities within it. -/
private theorem fieldReads (value : Json) : FieldReads value := by
  refine field.induct FieldReads EntitiesRead (fun members => FieldsRead (fields members))
    (fun members entity induction => fieldReads_entity entity induction)
    (fun members plain read found same => ?_) (fun items all induction read found same => ?_)
    (fun items mixed read found same => ?_) (fun other noObject noList read found same => ?_)
    ?_ (fun item items first rest => entitiesRead_cons first rest) ?_
    (fun key value members isHeader induction => ?_)
    (fun key value members noHeader first rest => ?_) value
  · exact fieldReads_of_plain (by rw [field, if_neg plain]) read found same
  · obtain ⟨targets, inside, rfl⟩ := field_arr_of_ok all same
    exact induction _ _ inside
  · exact fieldReads_of_plain (by rw [field, if_neg mixed]) read found same
  · exact fieldReads_of_plain (by rw [field] <;> assumption) read found same
  · intro read found same
    rw [entities] at same
    cases same
    exact ⟨.nil, by simp⟩
  · simpa only [fields] using fieldsRead_nil
  · rw [fields, if_pos isHeader]
    exact induction
  · rw [fields, if_neg noHeader]
    exact fieldsRead_cons first rest

private theorem fieldsRead_rootFields (members : List (String × Json)) :
    FieldsRead (rootFields members) := by
  induction members with
  | nil => simpa only [rootFields] using fieldsRead_nil
  | cons member members induction =>
      obtain ⟨key, value⟩ := member
      exact fieldsRead_cons (fieldReads value) induction

theorem linksTo_collectOne {collected : Records} {occurrence : RecordId × Record}
    {id target : RecordId} {record : Record} {field : String}
    (found : (collectOne collected occurrence)[id]? = some record)
    (linked : record.LinksTo field target) :
    (id = occurrence.1 ∧ occurrence.2.LinksTo field target) ∨
      ∃ earlier, collected[id]? = some earlier ∧ earlier.LinksTo field target := by
  by_cases same : id = occurrence.1
  · subst same
    cases present : collected[occurrence.1]? with
    | none =>
        obtain rfl : occurrence.2 = record := by simpa [collectOne, present] using found
        exact .inl ⟨rfl, linked⟩
    | some earlier =>
        obtain rfl : { earlier with fields := earlier.fields.merge occurrence.2.fields } =
            record := by
          simpa [collectOne, present] using found
        rcases @Record.linksTo_merge earlier occurrence.2 _ _ linked with
          linked | ⟨-, linked⟩
        · exact .inl ⟨rfl, linked⟩
        · exact .inr ⟨earlier, rfl, linked⟩
  · refine .inr ⟨record, ?_, linked⟩
    rw [← found, collectOne]
    split <;> simp [Std.ExtTreeMap.getElem?_insert, Ne.symm same]

theorem isSome_getElem?_collectOne (collected : Records) (occurrence : RecordId × Record)
    (id : RecordId) :
    (collectOne collected occurrence)[id]?.isSome =
      (decide (id = occurrence.1) || collected[id]?.isSome) := by
  by_cases same : id = occurrence.1
  · subst same
    rw [collectOne]
    split <;> simp
  · rw [collectOne]
    split <;> simp [Std.ExtTreeMap.getElem?_insert, Ne.symm same, same]

theorem isSome_getElem?_collect (occurrences : List (RecordId × Record)) (id : RecordId) :
    (collect occurrences)[id]?.isSome ↔ id ∈ occurrences.map Prod.fst := by
  have general : ∀ (occurrences : List (RecordId × Record)) (start : Records),
      (occurrences.foldl collectOne start)[id]?.isSome ↔
        id ∈ occurrences.map Prod.fst ∨ start[id]?.isSome := by
    intro occurrences
    induction occurrences with
    | nil => simp
    | cons occurrence occurrences induction =>
        intro start
        rw [List.foldl_cons, induction, isSome_getElem?_collectOne]
        simp only [Bool.or_eq_true, decide_eq_true_eq, List.map_cons, List.mem_cons]
        rw [or_left_comm, or_assoc]
  simpa [collect] using general occurrences ∅

/-- A collected record links to nothing that its occurrences do not link to. -/
theorem linksTo_collect {occurrences : List (RecordId × Record)} {id target : RecordId}
    {record : Record} {field : String} (found : (collect occurrences)[id]? = some record)
    (linked : record.LinksTo field target) :
    ∃ entry ∈ occurrences, entry.2.LinksTo field target := by
  have general : ∀ (occurrences : List (RecordId × Record)) (start : Records) (record : Record),
      (occurrences.foldl collectOne start)[id]? = some record → record.LinksTo field target →
        (∃ entry ∈ occurrences, entry.2.LinksTo field target) ∨
          ∃ earlier, start[id]? = some earlier ∧ earlier.LinksTo field target := by
    intro occurrences
    induction occurrences with
    | nil => exact fun start record found linked => .inr ⟨record, found, linked⟩
    | cons occurrence occurrences induction =>
        intro start record found linked
        rcases induction _ record found linked with
          ⟨entry, member, linked⟩ | ⟨earlier, found, linked⟩
        · exact .inl ⟨entry, List.mem_cons_of_mem _ member, linked⟩
        · rcases linksTo_collectOne found linked with ⟨-, linked⟩ | earlier
          · exact .inl ⟨occurrence, List.mem_cons_self, linked⟩
          · exact .inr earlier
  rcases general occurrences ∅ record found linked with entry | ⟨earlier, found, -⟩
  · exact entry
  · simp at found

end Normalized

/-- Some records of an answer: saved, each id once, linked to nothing but each other. -/
structure Snapshot.Closed (snapshot : Snapshot) : Prop extends
    ClosedOccurrences snapshot.entries where
  /-- Each id stands once. -/
  distinct : snapshot.entries.Pairwise fun left right => left.1 ≠ right.1

namespace Normalized

private theorem closed_collect {occurrences : List (RecordId × Record)}
    (closed : ClosedOccurrences occurrences) :
    Snapshot.Closed ⟨(collect occurrences).toList⟩ ∧
      ∀ id ∈ occurrences.map Prod.fst, id ∈ (collect occurrences).toList.map Prod.fst := by
  have occurs : ∀ id ∈ occurrences.map Prod.fst,
      id ∈ (collect occurrences).toList.map Prod.fst := by
    intro id member
    obtain ⟨record, found⟩ :=
      Option.isSome_iff_exists.mp ((isSome_getElem?_collect occurrences id).mpr member)
    exact List.mem_map.mpr
      ⟨(id, record), Std.ExtTreeMap.mem_toList_iff_getElem?_eq_some.mpr found, rfl⟩
  refine ⟨⟨⟨fun entry member => ?_, fun entry member field target linked => ?_⟩,
    pairwise_ne_toList _⟩, occurs⟩
  · have found := Std.ExtTreeMap.mem_toList_iff_getElem?_eq_some.mp member
    obtain ⟨occurrence, member, same⟩ := List.mem_map.mp
      ((isSome_getElem?_collect occurrences entry.1).mp (by simp [found]))
    rw [← same]
    exact closed.saved occurrence member
  · have found := Std.ExtTreeMap.mem_toList_iff_getElem?_eq_some.mp member
    obtain ⟨occurrence, member, linked⟩ := linksTo_collect found linked
    exact occurs target (closed.linked occurrence member field target linked)

/-- A normalized answer is closed, and its root fields link to its own records. -/
theorem closed_of_ofJson {data : Json} {normalized : Normalized}
    (read : ofJson data = .ok normalized) :
    normalized.snapshot.Closed ∧
      ∀ (field : String) (value : FieldValue), normalized.root[field]? = some value →
        ∀ target ∈ value.targets, target ∈ normalized.snapshot.entries.map Prod.fst := by
  cases data with
  | obj members =>
      obtain ⟨fields, occurrences, inner, rfl⟩ := ofJson_of_ok read
      obtain ⟨closed, within⟩ := fieldsRead_rootFields members _ _ inner
      obtain ⟨closedSnapshot, occurs⟩ := closed_collect closed
      refine ⟨closedSnapshot, fun field value named target member => ?_⟩
      exact occurs target
        (within _ (FieldMap.mem_of_getElem?_ofList named) target member)
  | _ => simp [ofJson] at read

theorem closed_of_ofResult {result : ApiResult Json} {normalized : Normalized}
    (read : ofResult result = .ok normalized) :
    normalized.snapshot.Closed ∧
      ∀ (field : String) (value : FieldValue), normalized.root[field]? = some value →
        ∀ target ∈ value.targets, target ∈ normalized.snapshot.entries.map Prod.fst := by
  cases result with
  | error => simp [ofResult] at read
  | ok data => exact closed_of_ofJson (ofResult_ok.mp read)

end Normalized

end RealmDesk
