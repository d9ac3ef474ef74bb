import RealmDesk.Json.Reader

/-!
# Configuration

The page that hosts the desk hands over a configuration as JSON text: an object whose members are
all optional, or the list of their values in order. `API_URL` is another name of `api_url` and wins
over it.
-/

namespace RealmDesk

/-- The configuration of the desk. -/
structure Config where
  /-- The origin of the server; empty for the origin of the page. -/
  apiUrl : String := ""
  /-- The path for queries and mutations. -/
  graphqlPath : String := "/graphql"
  /-- The path of the session. -/
  sessionPath : String := "/~session"
  /-- Where a click on the logout control leads, if it is a plain link. -/
  logoutLink : Option String := none
  /-- Which messages are logged. -/
  logFilter : String := "info"
deriving DecidableEq, Inhabited

namespace Config

open Json (Fault)

/-- The text of a setting. -/
private def text : Json → Except Fault String
  | .str value => .ok value
  | _ => .error .wrongShape

/-- The text of a setting that may be `null`. -/
private def optionalText : Json → Except Fault (Option String)
  | .null => .ok none
  | value => (text value).map some

/-- A setting, or its default where it is missing. -/
private def setting {α : Type} (read : Json → Except Fault α) (default : α) :
    Option Json → Except Fault α
  | none => .ok default
  | some value => read value

/-- The configuration with the given settings. -/
private def ofSettings (apiUrl graphqlPath sessionPath logoutLink logFilter : Option Json) :
    Except Fault Config := do
  let standard : Config := {}
  return {
    apiUrl := ← setting text standard.apiUrl apiUrl
    graphqlPath := ← setting text standard.graphqlPath graphqlPath
    sessionPath := ← setting text standard.sessionPath sessionPath
    logoutLink := ← setting optionalText standard.logoutLink logoutLink
    logFilter := ← setting text standard.logFilter logFilter }

/-- Reads a configuration from a JSON value. -/
def ofJson : Json → Except Fault Config
  | .obj members =>
      let setting (name : String) := members.lookup name
      ofSettings ((setting "API_URL").or (setting "api_url")) (setting "graphql_path")
        (setting "session_path") (setting "logout_link") (setting "log_filter")
  | .arr items =>
      if items.length ≤ 5 then
        ofSettings items[0]? items[1]? items[2]? items[3]? items[4]?
      else .error .wrongShape
  | _ => .error .wrongShape

/-- Reads a configuration from JSON text. -/
def parse (raw : String) : Except Fault Config := do
  ofJson (← Json.parse raw)

/-- A text without the slashes at its end. -/
private def withoutSlashes (text : String) : String :=
  String.ofList (text.toList.reverse.dropWhile (· == '/')).reverse

/-- The URL for queries and mutations. -/
def graphqlUrl (config : Config) : String :=
  withoutSlashes config.apiUrl ++ config.graphqlPath

/-- The URL of the session. -/
def sessionUrl (config : Config) : String :=
  withoutSlashes config.apiUrl ++ config.sessionPath

end Config

end RealmDesk
