import RealmDesk.Record.Basic

/-!
# Realms

A realm is a page of the portal, with blocks on it and child realms below it.
-/

namespace RealmDesk

/-- The type of the records that are realms. -/
def realmType : String := "Realm"

/-- A realm as pages show it. -/
structure RealmView where
  /-- The id of the realm. -/
  id : RecordId
  /-- The name, which the root need not have. -/
  name : Option String
  /-- The path below which the realm lies. -/
  path : String
  /-- Whether the realm is the root. -/
  isRoot : Bool
  /-- Whether the user may edit the realm. -/
  canCurrentUserEdit : Bool
  /-- How many realms lie below it. -/
  numberOfDescendants : Int
  /-- The blocks on its page, in their order. -/
  blocks : List RecordId
  /-- The realms directly below it. -/
  children : List RecordId
deriving DecidableEq

/-- The realm a record is, if its type is that of a realm; fields that are missing or of another
kind take their defaults. -/
def RealmView.ofRecord? (id : RecordId) (record : Record) : Option RealmView :=
  if record.typeTag = realmType then
    some {
      id
      name := record.str? Field.name
      path := (record.str? Field.path).getD ""
      isRoot := (record.bool? Field.isRoot).getD false
      canCurrentUserEdit := (record.bool? Field.canCurrentUserEdit).getD false
      numberOfDescendants := (record.int64? Field.numberOfDescendants).getD 0
      blocks := record.links Field.blocks
      children := record.links Field.children }
  else none

end RealmDesk
