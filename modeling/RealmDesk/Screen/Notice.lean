import RealmDesk.Place
import RealmDesk.Screen.Markup

/-!
# Notices and the dashboard

Pages that hold no data of a realm or a listing: the dashboard, and what is shown in place of a page
that is loading, is missing, may not be seen or could not be loaded.
-/

namespace RealmDesk.Screen

/-- The page that leads to all others. -/
def dashboard : List Node :=
  [.card "Manage" [.text "Your videos and the pages you may edit."] [
    .box [.linkTo Route.videos.path "My videos"],
    .box [.linkTo (Place.realmSettings "/").address "Root page"]]]

/-- Shown while a page loads. -/
def loading : List Node :=
  [.box [.spinner, .text "Loading..."]]

/-- Shown where a URL leads nowhere. -/
def notFound : List Node :=
  [.box [.text "Page not found. ", .linkTo Route.dashboard.path "Back to the dashboard"]]

/-- Shown where there is no realm at a path. -/
def invalidPath : List Node :=
  [.notice "Invalid realm path"
    "There is no realm at this path. It may have been moved or deleted." []]

/-- Shown to a user who may not see a page. -/
def notAuthorized : List Node :=
  [.notice "Not authorized" "You are not allowed to manage this page. Try logging in." []]

/-- Shown where a page could not be loaded. -/
def loadFailed (message : String) : List Node :=
  [.notice "Could not load this page" message [.action "Try again"]]

end RealmDesk.Screen
