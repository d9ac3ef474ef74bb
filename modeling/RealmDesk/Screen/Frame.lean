import RealmDesk.App
import RealmDesk.Screen.Content
import RealmDesk.Screen.Notice
import RealmDesk.Screen.VideoTable
import RealmDesk.Visit.Verdict

/-!
# The frame around the pages

Every page stands below a header that leads to the main pages and lets the user log out. Which page
it is follows from the navigation: a page that is on its way stands above the one before it.
-/

namespace RealmDesk.Screen

/-- The page of a place that is loaded. -/
def loadedPage (place : Place) (root : FieldMap) (records : Records) (editor : Editor) :
    List Node :=
  match Verdict.of place root records, place with
  | .dashboard, _ => dashboard
  | .realm realm, .addChild _ => addChild realm
  | .realm realm, .realmContent _ => realmContent realm records editor
  | .realm realm, _ => realmSettings realm records
  | .videos connection, .videos listing => videoTable listing.order connection
  | .videos _, _ => notFound
  | .invalidPath, _ => invalidPath
  | .notAuthorized, _ => notAuthorized

/-- The page that the navigation asks for. -/
def page (app : App) : List Node :=
  let loaded (place : Place) (root : FieldMap) : List Node :=
    loadedPage place root app.cache.store.records app.editor
  match app.status with
  | .idle => []
  | .notFound => notFound
  | .loading _ none => loading
  | .loading _ (some (place, root)) => loading ++ [.box (loaded place root)]
  | .failed _ error => loadFailed error.message
  | .ready place root => loaded place root

/-- The control that logs the user out: a link where one is configured, else a button. -/
def logoutControl (config : Config) (logout : Logout) : Node :=
  match config.logoutLink with
  | some address => .linkTo address "Log out"
  | none =>
      if logout = .pending then .button false [.spinner, .text "Log out"] else .action "Log out"

/-- The part of the header that is about the user, whose name is filled in later. -/
def userBox (config : Config) (logout : Logout) : Node :=
  let failed := if logout = .failed then [Node.label "Logout failed"] else []
  .box (.label "" :: failed ++ [logoutControl config logout])

/-- The header and a page below it. -/
def frame (config : Config) (logout : Logout) (page : List Node) : List Node :=
  [.box [
    .box [
      .linkTo "/" "Video portal",
      .box [.linkTo Route.dashboard.path "Manage", .linkTo Route.videos.path "My videos"],
      .box [userBox config logout]],
    .box page]]

/-- What the user sees of the application. -/
def ofApp (app : App) : List Node :=
  frame app.config app.logout (page app)

end RealmDesk.Screen
