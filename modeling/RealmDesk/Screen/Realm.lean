import RealmDesk.Place
import RealmDesk.Realm.View
import RealmDesk.Screen.Markup

/-!
# Pages of a realm

The settings of a realm lead to its content and to the realms below it, and a form asks for the name
and the path of a new one.
-/

namespace RealmDesk.Screen

/-- The title of the pages of a realm: its name, which only the root may lack. -/
def realmTitle (realm : RealmView) : String :=
  realm.name.getD "Root page"

/-- The link to a child realm, by its name or else by its path. -/
def childLink (child : RealmView) : Node :=
  .box [.linkTo (Place.realmSettings child.path).address (child.name.getD child.path)]

/-- The child realms of a realm that are in the store. -/
def storedChildren (realm : RealmView) (records : Records) : List RealmView :=
  realm.children.filterMap fun id => (records[id]?).bind (RealmView.ofRecord? id)

/-- The settings of a realm. -/
def realmSettings (realm : RealmView) (records : Records) : List Node :=
  let subpages := if realm.isRoot then [] else
    [Node.text (" · " ++ realm.numberOfDescendants.repr ++ " subpages")]
  [.card (realmTitle realm) (.text realm.path :: subpages) [
    .box [
      .linkTo (Place.realmContent realm.path).address "Edit content",
      .linkTo (Place.addChild realm.path).address "Add subpage"],
    .box ((storedChildren realm records).map childLink)]]

/-- What stands before the last part of the path of a new child realm. -/
def childPrefix (path : String) : String :=
  if path.toList.getLast? = some '/' then path else path ++ "/"

/-- The form for a new child realm, with nothing filled in. -/
def addChild (parent : RealmView) : List Node :=
  [.card "Add subpage" [.text ("Below " ++ parent.path)] [
    .box [.label "Name", .input "text" (some "name") none],
    .box [
      .label "Path segment",
      .box [.label (childPrefix parent.path), .input "text" (some "path-segment") none]],
    .button true [.label "Create page"]]]

end RealmDesk.Screen
