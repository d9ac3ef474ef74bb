import RealmDesk.Place
import RealmDesk.Realm.View
import RealmDesk.Wire.Block

/-!
# Places in JSON

Listings, places, URLs, operations, and the realm of a page.
-/

namespace RealmDesk

open Wire

/-- Reads the name of a column. -/
def SortColumn.ofJson : Json → Reading SortColumn :=
  choice "a column" fun name => SortColumn.all.find? (·.name == name)

/-- Reads the name of a direction. -/
def SortDirection.ofJson : Json → Reading SortDirection :=
  choice "a direction" fun name =>
    [SortDirection.ascending, .descending].find? (·.name == name)

/-- The form of an order. -/
def SortOrder.toJson (order : SortOrder) : Json :=
  .object [("column", .str order.column.name), ("direction", .str order.direction.name)]

/-- Reads an order. -/
def SortOrder.ofJson (value : Json) : Reading SortOrder := do
  return ⟨← SortColumn.ofJson (← member value "column"),
    ← SortDirection.ofJson (← member value "direction")⟩

/-- The form of a page: its name, or an object that gives the cursor. -/
def ListPage.toJson : ListPage → Json
  | .first => .str "First"
  | .last => .str "Last"
  | .after cursor => .obj [("After", .str cursor)]
  | .before cursor => .obj [("Before", .str cursor)]

/-- Reads a page. -/
def ListPage.ofJson : Json → Reading ListPage
  | .str "First" => .ok .first
  | .str "Last" => .ok .last
  | .obj [("After", cursor)] => return .after (← asText cursor)
  | .obj [("Before", cursor)] => return .before (← asText cursor)
  | _ => .error (.notA "a page")

/-- The members of the form of a listing. -/
def Listing.formMembers (listing : Listing) : List (String × Json) :=
  [("order", listing.order.toJson), ("page", listing.page.toJson)]

/-- The form of a listing. -/
def Listing.toJson (listing : Listing) : Json :=
  .object listing.formMembers

/-- Reads a listing. -/
def Listing.ofJson (value : Json) : Reading Listing := do
  return ⟨← SortOrder.ofJson (← member value "order"), ← ListPage.ofJson (← member value "page")⟩

/-- The form of a place: the name of its kind, and what tells it from others of that kind. -/
def Place.toJson : Place → Json
  | .dashboard => .object [("route", .str "Dashboard")]
  | .realmSettings path => .object [("route", .str "RealmSettings"), ("path", .str path)]
  | .addChild parent => .object [("route", .str "AddChild"), ("parent", .str parent)]
  | .realmContent path => .object [("route", .str "RealmContent"), ("path", .str path)]
  | .videos listing => .object (("route", .str "Videos") :: listing.formMembers)

/-- Reads a place. -/
def Place.ofJson (value : Json) : Reading Place := do
  match ← textOf value "route" with
  | "Dashboard" => return .dashboard
  | "RealmSettings" => return .realmSettings (← textOf value "path")
  | "AddChild" => return .addChild (← textOf value "parent")
  | "RealmContent" => return .realmContent (← textOf value "path")
  | "Videos" => return .videos (← Listing.ofJson value)
  | _ => throw (.notA "a place")

/-- The form of pairs of texts, such as the parameters of a URL. -/
def Wire.ofPairs : List (String × String) → Json :=
  ofList fun pair => .arr [.str pair.1, .str pair.2]

/-- Reads a pair of texts. -/
def Wire.asPair : Json → Reading (String × String)
  | .arr [left, right] => return (← asText left, ← asText right)
  | _ => .error (.notA "a pair of texts")

/-- The form of a URL. -/
def Url.toJson (url : Url) : Json :=
  .object [("path", .str url.path), ("query", ofPairs url.query)]

/-- The form of an operation without its document. -/
def Operation.toJson (operation : Operation) : Json :=
  .object [("operationName", .str operation.name), ("variables", operation.arguments)]

/-- The form of a realm as pages show it. -/
def RealmView.toJson (realm : RealmView) : Json :=
  .object [
    ("id", realm.id.toJson),
    ("name", ofOption .str realm.name),
    ("path", .str realm.path),
    ("isRoot", .bool realm.isRoot),
    ("canCurrentUserEdit", .bool realm.canCurrentUserEdit),
    ("numberOfDescendants", .int realm.numberOfDescendants),
    ("blocks", ofIds realm.blocks),
    ("children", ofIds realm.children)]

end RealmDesk
