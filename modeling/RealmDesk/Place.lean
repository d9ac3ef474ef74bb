import RealmDesk.Operation
import RealmDesk.Url

/-!
# Places and routes

A place is a page of the desk with its parameters, and every place has a URL of its own. A route
table maps URLs to places: its routes are tried in order and the first that matches wins.
-/

namespace RealmDesk

/-- A page of the desk with its parameters. -/
inductive Place where
  /-- The entrance. -/
  | dashboard
  /-- The settings of the realm at a path. -/
  | realmSettings (path : String)
  /-- The form that adds a child to the realm at a path. -/
  | addChild (parent : String)
  /-- The blocks of the realm at a path. -/
  | realmContent (path : String)
  /-- A page of the user's videos. -/
  | videos (listing : Listing)
deriving DecidableEq, Inhabited

/-- A kind of place. -/
inductive Route where
  /-- Leads to the entrance. -/
  | dashboard
  /-- Leads to the settings of a realm. -/
  | realmSettings
  /-- Leads to the form for a child realm. -/
  | addChild
  /-- Leads to the blocks of a realm. -/
  | realmContent
  /-- Leads to the user's videos. -/
  | videos
deriving DecidableEq, Inhabited

namespace Route

/-- All routes, in the order in which they are tried. -/
def all : List Route := [.dashboard, .realmSettings, .addChild, .realmContent, .videos]

/-- The name of a route. -/
def name : Route → String
  | .dashboard => "dashboard"
  | .realmSettings => "realm-settings"
  | .addChild => "add-child"
  | .realmContent => "realm-content"
  | .videos => "videos"

/-- The path of the URLs that a route leads from. -/
def path : Route → String
  | .dashboard => "/~manage"
  | .realmSettings => "/~manage/realm"
  | .addChild => "/~manage/realm/add-child"
  | .realmContent => "/~manage/realm/content"
  | .videos => "/~manage/videos"

/-- The place a URL names by its parameters; the parameter with the path of a realm has to be
there. -/
def place? (url : Url) : Route → Option Place
  | .dashboard => some .dashboard
  | .realmSettings => (url.parameter? "path").map .realmSettings
  | .addChild => (url.parameter? "parent").map .addChild
  | .realmContent => (url.parameter? "path").map .realmContent
  | .videos => some (.videos (.decode url.parameter?))

/-- The place a route leads to from a URL. -/
def match? (route : Route) (url : Url) : Option Place :=
  if url.path = route.path then route.place? url else none

/-- The operation that loads a place. A route asked to load a place of another kind loads the
dashboard. -/
def operation : Route → Place → Operation
  | .realmSettings, .realmSettings path => .realmSettings path
  | .addChild, .addChild parent => .addChild parent
  | .realmContent, .realmContent path => .realmContent path
  | .videos, .videos listing => .videos listing
  | _, _ => .dashboard

end Route

namespace Place

/-- The route that leads to a place. -/
def route : Place → Route
  | .dashboard => .dashboard
  | .realmSettings _ => .realmSettings
  | .addChild _ => .addChild
  | .realmContent _ => .realmContent
  | .videos _ => .videos

/-- The URL of a place. -/
def url (place : Place) : Url :=
  let base := Url.ofPath place.route.path
  match place with
  | .dashboard => base
  | .realmSettings path | .realmContent path => base.withParameter "path" path
  | .addChild parent => base.withParameter "parent" parent
  | .videos listing => { base with query := listing.encode }

/-- The text of the URL of a place. -/
def address (place : Place) : String :=
  place.url.text

end Place

/-- Routes in the order in which they are tried. -/
structure RouteTable where
  /-- The routes. -/
  routes : List Route
deriving DecidableEq, Inhabited

/-- A place found for a URL. -/
structure Hit where
  /-- The position of the route in its table. -/
  index : Nat
  /-- The route. -/
  route : Route
  /-- The place it leads to. -/
  place : Place
deriving DecidableEq, Inhabited

namespace RouteTable

/-- The table with every route. -/
def standard : RouteTable := ⟨Route.all⟩

/-- The table of the routes at the given positions of the standard table. -/
def picked (positions : List Nat) : RouteTable :=
  ⟨positions.filterMap (Route.all[·]?)⟩

/-- The first hit among routes that follow others in their table. -/
def hitFrom (url : Url) : Nat → List Route → Option Hit
  | _, [] => none
  | index, route :: routes =>
      match route.match? url with
      | some place => some ⟨index, route, place⟩
      | none => hitFrom url (index + 1) routes

/-- The place a URL leads to, by the first route that matches. -/
def hit? (table : RouteTable) (url : Url) : Option Hit :=
  hitFrom url 0 table.routes

/-- The first hit of a URL is by the route at its position. -/
theorem getElem?_of_hitFrom {url : Url} {first : Nat} {routes : List Route} {hit : Hit}
    (found : hitFrom url first routes = some hit) :
    first ≤ hit.index ∧ routes[hit.index - first]? = some hit.route ∧
      hit.route.match? url = some hit.place := by
  induction routes generalizing first with
  | nil => cases found
  | cons route routes induction =>
      rw [hitFrom] at found
      split at found
      case h_1 place leads =>
        obtain rfl := Option.some.inj found
        refine ⟨Nat.le_refl _, ?_, leads⟩
        simp
      case h_2 =>
        obtain ⟨later, route, leads⟩ := induction found
        have shift : hit.index - first = hit.index - (first + 1) + 1 := by omega
        refine ⟨by omega, ?_, leads⟩
        rw [shift, List.getElem?_cons_succ, route]

theorem getElem?_of_hit? {table : RouteTable} {url : Url} {hit : Hit}
    (found : table.hit? url = some hit) :
    table.routes[hit.index]? = some hit.route ∧ hit.route.match? url = some hit.place :=
  (getElem?_of_hitFrom found).2

end RouteTable

end RealmDesk
