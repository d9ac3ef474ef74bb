import RealmDesk.Json.Tagged
import RealmDesk.Record.Basic

/-!
# Normalized answers

An answer of the server is a tree in which every object with an `id` is an entity. An entity
becomes a record and is replaced by a link; a list of nothing but entities becomes a list of links;
everything else stays as plain JSON, entities within it included. An entity that occurs more than
once is merged, later occurrences over earlier ones, except that its type is the first one.

The work is done in two steps: `field` lists the occurrences of entities, each with its own fields
only and after all entities within it, and `collect` merges the occurrences of each id.
-/

namespace RealmDesk

/-- Why an answer cannot be turned into records. -/
inductive NormalizeError where
  /-- The answer is not an object. -/
  | notAnObject
  /-- An entity has no type. -/
  | missingTypename (id : String)
  /-- The id of an entity is not a text. -/
  | invalidId (id : Json)
deriving DecidableEq, Inhabited

/-- The text of the error. -/
def NormalizeError.message : NormalizeError → String
  | .notAnObject => "response data is not an object"
  | .missingTypename id => "object with id " ++ id ++ " has no __typename"
  | .invalidId id => "id is not a string: Some(" ++ id.tagged ++ ")"

/-- An answer as records: its root fields, and the records they lead to. -/
structure Normalized where
  /-- The fields of the answer. -/
  root : FieldMap
  /-- The records, each id once and in the order of ids. -/
  snapshot : Snapshot
deriving DecidableEq, Inhabited

namespace Normalized

/-- The ids that root fields link to, field by field. -/
def rootIds (normalized : Normalized) : List RecordId :=
  normalized.root.toList.flatMap fun entry => entry.2.targets

/-- The record that a root field links to, with its id. -/
def linked? (normalized : Normalized) (field : String) : Option (RecordId × Record) := do
  let id ← (← normalized.root[field]?).link?
  let record ← normalized.snapshot.get? id
  return (id, record)

/-- Whether a value is an entity. -/
def isEntity (value : Json) : Bool :=
  (value.member? "id").isSome

/-- The id and the type of an entity, given by its members. -/
def header (members : List (String × Json)) : Except NormalizeError (String × String) :=
  match members.lookup "id" with
  | some (.str id) =>
      match members.lookup "__typename" with
      | some (.str typeTag) => .ok (id, typeTag)
      | _ => .error (.missingTypename id)
  | id => .error (.invalidId (id.getD .null))

/-- Whether a member of an entity is no field of its record. -/
def isHeaderKey (key : String) : Bool :=
  key == "id" || key == "__typename"

mutual

/-- The value of a field, and the occurrences of entities within it. -/
def field : Json → Except NormalizeError (FieldValue × List (RecordId × Record))
  | .obj members =>
      if isEntity (.obj members) then do
        let (id, typeTag) ← header members
        let (fields, found) ← fields members
        return (.link (.persisted id),
          found ++ [(.persisted id, ⟨typeTag, FieldMap.ofList fields⟩)])
      else .ok (.scalar (.obj members), [])
  | .arr items =>
      if items.all isEntity then do
        let (targets, found) ← entities items
        return (.links targets, found)
      else .ok (.scalar (.arr items), [])
  | other => .ok (.scalar other, [])

/-- The fields that members of an entity make, and the occurrences of entities within them. -/
def fields : List (String × Json) →
    Except NormalizeError (List (String × FieldValue) × List (RecordId × Record))
  | [] => .ok ([], [])
  | (key, value) :: members =>
      if isHeaderKey key then fields members
      else do
        let (first, found) ← field value
        let (others, later) ← fields members
        return ((key, first) :: others, found ++ later)

/-- The ids of a list of entities, and the occurrences of entities within it. -/
def entities : List Json → Except NormalizeError (List RecordId × List (RecordId × Record))
  | [] => .ok ([], [])
  | item :: items => do
      let (first, found) ← field item
      let (others, later) ← entities items
      return (first.targets ++ others, found ++ later)

end

/-- The fields of the root of an answer, and the occurrences of entities within them. -/
def rootFields : List (String × Json) →
    Except NormalizeError (List (String × FieldValue) × List (RecordId × Record))
  | [] => .ok ([], [])
  | (key, value) :: members => do
      let (first, found) ← field value
      let (others, later) ← rootFields members
      return ((key, first) :: others, found ++ later)

/-- Adds an occurrence of an entity to the records collected so far. -/
def collectOne (collected : Records) (occurrence : RecordId × Record) : Records :=
  match collected[occurrence.1]? with
  | none => collected.insert occurrence.1 occurrence.2
  | some record =>
      collected.insert occurrence.1
        { record with fields := record.fields.merge occurrence.2.fields }

/-- The records that occurrences of entities make together. -/
def collect (occurrences : List (RecordId × Record)) : Records :=
  occurrences.foldl collectOne ∅

/-- Turns an answer into records. -/
def ofJson : Json → Except NormalizeError Normalized
  | .obj members => do
      let (fields, occurrences) ← rootFields members
      return ⟨FieldMap.ofList fields, ⟨(collect occurrences).toList⟩⟩
  | _ => .error .notAnObject

end Normalized

end RealmDesk
