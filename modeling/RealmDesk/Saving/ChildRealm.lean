import RealmDesk.Answer.Error
import RealmDesk.Operation
import RealmDesk.Realm.NewChild
import RealmDesk.Realm.View
import RealmDesk.Store.Cache

/-!
# Adding child realms

The answer to the creation of a child realm holds the new realm. It is merged as a whole if the new
realm has a path, and not at all otherwise.
-/

namespace RealmDesk.ChildRealm

/-- The field of the answer that links to the new realm. -/
def answerField : String := "addRealm"

/-- The operation that adds a child below the realm with an id. -/
def operation (parent : String) (child : NewChild) : Operation :=
  .addChildRealm parent child.name child.segment

/-- The path of the new realm that an answer holds. -/
def createdPath (normalized : Normalized) : ApiResult String :=
  match (normalized.linked? answerField).bind fun entry => RealmView.ofRecord? entry.1 entry.2 with
  | none => .error (.parse (.noRealm answerField))
  | some realm =>
      if realm.path.isEmpty then .error (.parse (.noPath realm.id)) else .ok realm.path

/-- Hands in the result of the creation. Returns the path of the new realm. -/
def receive (cache : Cache) (result : ApiResult Json) : ApiResult String × Cache :=
  match Normalized.ofResult result with
  | .error error => (.error error, cache)
  | .ok normalized =>
      match createdPath normalized with
      | .error error => (.error error, cache)
      | .ok path => (.ok path, cache.applySnapshot normalized.snapshot)

end RealmDesk.ChildRealm
