import RealmDesk.Place
import RealmDesk.Realm.View

/-!
# Verdicts on loaded places

Whether a loaded place is shown, and as what, follows from its root fields and the records they
link to. A realm that is missing and a realm that may not be edited are told apart.
-/

namespace RealmDesk

/-- How a loaded place is shown. -/
inductive Verdict where
  /-- As the dashboard. -/
  | dashboard
  /-- As a page of a realm. -/
  | realm (view : RealmView)
  /-- As a listing of videos, by the data of the listing. -/
  | videos (connection : Json)
  /-- There is no realm at the path. -/
  | invalidPath
  /-- The user may not see the page. -/
  | notAuthorized
deriving DecidableEq, Inhabited

namespace Verdict

/-- The realm that a root field links to. -/
def linkedRealm? (field : String) (root : FieldMap) (records : Records) : Option RealmView := do
  let id ← (← root[field]?).link?
  let record ← records[id]?
  RealmView.ofRecord? id record

/-- The verdict on a page of a realm. -/
def onRealm (field : String) (root : FieldMap) (records : Records) : Verdict :=
  match linkedRealm? field root records with
  | none => .invalidPath
  | some view => if view.canCurrentUserEdit then .realm view else .notAuthorized

/-- The verdict on the listing of videos. -/
def onVideos (root : FieldMap) : Verdict :=
  match (root["currentUser"]?).bind FieldValue.json? with
  | none | some .null => .notAuthorized
  | some user => .videos (user.get "myVideos")

/-- The verdict on a place. -/
def of (place : Place) (root : FieldMap) (records : Records) : Verdict :=
  match place with
  | .dashboard => .dashboard
  | .videos _ => onVideos root
  | .addChild _ => onRealm "parent" root records
  | .realmSettings _ | .realmContent _ => onRealm "realm" root records

end Verdict

end RealmDesk
