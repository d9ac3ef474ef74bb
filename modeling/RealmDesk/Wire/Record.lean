import RealmDesk.Record.Basic
import RealmDesk.Wire.Reading

/-!
# Records in JSON

An id, the value of a field and the fields of a record each have one JSON form. A record is written
together with the id under which it stands.
-/

namespace RealmDesk

open Wire

/-- The form of an id: an object whose one key tells where the id comes from. -/
def RecordId.toJson : RecordId → Json
  | .persisted id => .obj [("Persisted", .str id)]
  | .pending number => .obj [("Pending", ofNat number)]

/-- Reads an id. -/
def RecordId.ofJson : Json → Reading RecordId
  | .obj [("Persisted", id)] => return .persisted (← asText id)
  | .obj [("Pending", value)] => return .pending (← asNumber value)
  | _ => .error (.notA "an id")

/-- The form of a list of ids. -/
def Wire.ofIds : List RecordId → Json := ofList RecordId.toJson

/-- Reads a list of ids. -/
def Wire.asIds (value : Json) : Reading (List RecordId) := do
  (← asItems value).mapM RecordId.ofJson

/-- The form of the value of a field: an object whose one key tells the kind of value. -/
def FieldValue.toJson : FieldValue → Json
  | .scalar value => .obj [("Scalar", value)]
  | .link target => .obj [("Link", target.toJson)]
  | .links targets => .obj [("Links", ofIds targets)]

/-- Reads the value of a field. -/
def FieldValue.ofJson : Json → Reading FieldValue
  | .obj [("Scalar", value)] => return .scalar value
  | .obj [("Link", target)] => return .link (← RecordId.ofJson target)
  | .obj [("Links", targets)] => return .links (← asIds targets)
  | _ => .error (.notA "the value of a field")

/-- The form of fields: an object with their names as keys. -/
def FieldMap.toJson (fields : FieldMap) : Json :=
  .object (fields.toList.map fun field => (field.1, field.2.toJson))

/-- Reads fields. -/
def FieldMap.ofJson (value : Json) : Reading FieldMap := do
  let fields ← (← asMembers value).mapM fun field => do
    return (field.1, ← FieldValue.ofJson field.2)
  return FieldMap.ofList fields

/-- The form of a record under an id. -/
def Record.toJson (id : RecordId) (record : Record) : Json :=
  .object [
    ("id", id.toJson), ("type", .str record.typeTag), ("fields", record.fields.toJson)]

/-- Reads fields that may be missing from a member of a value. -/
def Wire.fieldsOf (value : Json) (key : String) : Reading FieldMap :=
  match optional? value key with
  | none => .ok ∅
  | some fields => FieldMap.ofJson fields

/-- Reads a record and the id under which it stands; the fields may be missing. -/
def Record.ofJson (value : Json) : Reading (RecordId × Record) := do
  return (← RecordId.ofJson (← member value "id"),
    ⟨← textOf value "type", ← fieldsOf value "fields"⟩)

end RealmDesk
