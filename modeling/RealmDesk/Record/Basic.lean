import RealmDesk.Json.Basic
import RealmDesk.Record.Id

/-!
# Records

A record has a type and named fields. A field holds plain JSON or links to other records, and only
links tie records together. A record does not hold its own id: tables and snapshots name the id
under which a record stands.
-/

namespace RealmDesk

/-- The value of a field. -/
inductive FieldValue where
  /-- Plain JSON. -/
  | scalar (value : Json)
  /-- A link to one record. -/
  | link (target : RecordId)
  /-- Links to records, in their order. -/
  | links (targets : List RecordId)
deriving DecidableEq, Inhabited

namespace FieldValue

/-- The plain JSON, if it is not a link. -/
def json? : FieldValue → Option Json
  | .scalar value => some value
  | _ => none

/-- The truth value, if it is one. -/
def bool? (value : FieldValue) : Option Bool :=
  value.json?.bind Json.bool?

/-- The text, if it is one. -/
def str? (value : FieldValue) : Option String :=
  value.json?.bind Json.str?

/-- The signed 64-bit integer, if it is one. -/
def int64? (value : FieldValue) : Option Int :=
  value.json?.bind Json.int64?

/-- The record linked to, if the value is one link. -/
def link? : FieldValue → Option RecordId
  | .link target => some target
  | _ => none

/-- The records linked to, if the value is a list of links. -/
def links? : FieldValue → Option (List RecordId)
  | .links targets => some targets
  | _ => none

/-- Every record linked to. -/
def targets : FieldValue → List RecordId
  | .scalar _ => []
  | .link target => [target]
  | .links targets => targets

/-- The value with every negative zero read as zero. -/
def unsignedZeros : FieldValue → FieldValue
  | .scalar value => .scalar value.unsignedZeros
  | other => other

/-- The same value: zero and negative zero are not told apart. -/
def Same (left right : FieldValue) : Prop :=
  left.unsignedZeros = right.unsignedZeros

instance (left right : FieldValue) : Decidable (Same left right) :=
  inferInstanceAs (Decidable (_ = _))

@[simp] theorem unsignedZeros_unsignedZeros (value : FieldValue) :
    value.unsignedZeros.unsignedZeros = value.unsignedZeros := by
  cases value <;> simp [unsignedZeros]

@[simp] theorem targets_unsignedZeros (value : FieldValue) :
    value.unsignedZeros.targets = value.targets := by
  cases value <;> rfl

end FieldValue

/-- Fields by their names. -/
abbrev FieldMap := Std.ExtTreeMap String FieldValue

/-- The fields with the given names; of a repeated name the last value counts. -/
def FieldMap.ofList (fields : List (String × FieldValue)) : FieldMap :=
  fields.foldl (fun found field => found.insert field.1 field.2) ∅

/-- The fields of two maps; where both have a field, the second one's value. -/
def FieldMap.merge (fields incoming : FieldMap) : FieldMap :=
  fields ∪ incoming

@[simp] theorem FieldMap.getElem?_merge (fields incoming : FieldMap) (name : String) :
    (fields.merge incoming)[name]? = incoming[name]?.or fields[name]? :=
  Std.ExtTreeMap.getElem?_union

/-- A type with fields. -/
structure Record where
  /-- The name of the type. -/
  typeTag : String
  /-- The fields. -/
  fields : FieldMap
deriving DecidableEq, Inhabited

namespace Record

/-- The value of a field. -/
def get? (record : Record) (field : String) : Option FieldValue :=
  record.fields[field]?

/-- The record with a field set. -/
def set (record : Record) (field : String) (value : FieldValue) : Record :=
  { record with fields := record.fields.insert field value }

/-- Whether a field holds a value already. -/
def holds (record : Record) (field : String) (value : FieldValue) : Bool :=
  (record.get? field).any fun present => decide (present.Same value)

/-- The record with a field set, unless it holds the value already. -/
def update (record : Record) (field : String) (value : FieldValue) : Record :=
  if record.holds field value then record else record.set field value

/-- The record without a field. -/
def erase (record : Record) (field : String) : Record :=
  { record with fields := record.fields.erase field }

/-- The truth value of a field. -/
def bool? (record : Record) (field : String) : Option Bool :=
  (record.get? field).bind FieldValue.bool?

/-- The text of a field. -/
def str? (record : Record) (field : String) : Option String :=
  (record.get? field).bind FieldValue.str?

/-- The signed 64-bit integer of a field. -/
def int64? (record : Record) (field : String) : Option Int :=
  (record.get? field).bind FieldValue.int64?

/-- The link of a field. -/
def link? (record : Record) (field : String) : Option RecordId :=
  (record.get? field).bind FieldValue.link?

/-- The list of links of a field. -/
def links? (record : Record) (field : String) : Option (List RecordId) :=
  (record.get? field).bind FieldValue.links?

/-- The list of links of a field, empty if the field holds none. -/
def links (record : Record) (field : String) : List RecordId :=
  (record.links? field).getD []

/-- Every record linked to, field by field. -/
def targets (record : Record) : List RecordId :=
  record.fields.toList.flatMap fun entry => entry.2.targets

/-- The record merged with incoming data: the incoming type, and its fields before the old ones. -/
def merge (record incoming : Record) : Record :=
  ⟨incoming.typeTag, record.fields.merge incoming.fields⟩

/-- The record with every negative zero read as zero. -/
def unsignedZeros (record : Record) : Record :=
  { record with fields := record.fields.map fun _ value => value.unsignedZeros }

/-- The same record: zero and negative zero are not told apart. -/
def Same (left right : Record) : Prop :=
  left.unsignedZeros = right.unsignedZeros

instance (left right : Record) : Decidable (Same left right) :=
  inferInstanceAs (Decidable (_ = _))

end Record

/-- Records by their ids. -/
abbrev Records := Std.ExtTreeMap RecordId Record

namespace Records

/-- The records with every negative zero read as zero. -/
def unsignedZeros (records : Records) : Records :=
  records.map fun _ record => record.unsignedZeros

/-- The same records: zero and negative zero are not told apart. -/
def Same (left right : Records) : Prop :=
  unsignedZeros left = unsignedZeros right

instance (left right : Records) : Decidable (Same left right) :=
  inferInstanceAs (Decidable (_ = _))

end Records

/-- Records as an answer of the server brings them, each with its id; an id may occur more than
once. -/
structure Snapshot where
  /-- Ids and records, in the order in which they are merged. -/
  entries : List (RecordId × Record)
deriving DecidableEq, Inhabited

namespace Snapshot

/-- The first record with an id. -/
def get? (snapshot : Snapshot) (id : RecordId) : Option Record :=
  snapshot.entries.lookup id

/-- The snapshot without a field of one record. -/
def withoutField (snapshot : Snapshot) (id : RecordId) (field : String) : Snapshot :=
  ⟨snapshot.entries.map fun entry =>
    if entry.1 = id then (entry.1, entry.2.erase field) else entry⟩

end Snapshot

namespace Field

/-- The blocks of a realm. -/
def blocks : String := "blocks"
/-- The child realms of a realm. -/
def children : String := "children"
/-- The name of a realm. -/
def name : String := "name"
/-- The path of a realm. -/
def path : String := "path"
/-- Whether a realm is the root. -/
def isRoot : String := "isRoot"
/-- Whether the user may edit a realm. -/
def canCurrentUserEdit : String := "canCurrentUserEdit"
/-- How many realms lie below a realm. -/
def numberOfDescendants : String := "numberOfDescendants"
/-- Whether a block is being edited, known only here and never to the server. -/
def editMode : String := "editMode"
/-- The text of a block. -/
def content : String := "content"
/-- The series a block shows. -/
def series : String := "series"
/-- The video a block shows. -/
def event : String := "event"
/-- The order of a series. -/
def order : String := "order"
/-- Whether a block shows a title. -/
def showTitle : String := "showTitle"
/-- Whether a block shows further data. -/
def showMetadata : String := "showMetadata"
/-- The title of a series or a video. -/
def title : String := "title"

end Field

end RealmDesk
