import RealmDesk.Record.Id

/-!
# Errors of the store

A command of a local update can ask for a record that is not there, or create one that is.
-/

namespace RealmDesk

/-- Why a command of a local update fails. -/
inductive StoreError where
  /-- There is no record with the id. -/
  | missing (id : RecordId)
  /-- There is a record with the id already. -/
  | present (id : RecordId)
deriving DecidableEq, Inhabited

/-- The text of the error. -/
def StoreError.message : StoreError → String
  | .missing id => "record " ++ id.text ++ " does not exist"
  | .present id => "record " ++ id.text ++ " already exists"

end RealmDesk
