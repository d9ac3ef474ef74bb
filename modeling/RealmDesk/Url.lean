import RealmDesk.Text.Cut
import RealmDesk.Text.Percent

/-!
# URLs

A URL is a path and its query parameters, decoded and in the order in which they are written. The
text of a URL encodes keys and values and writes no `=` in front of an empty value.
-/

namespace RealmDesk

/-- A path with decoded query parameters. -/
structure Url where
  /-- Everything before the query, as it is written. -/
  path : String
  /-- Keys and values, in their order. -/
  query : List (String × String)
deriving DecidableEq, Inhabited

namespace Url

/-- A plus sign in a query stands for a space. -/
def spaced (character : Char) : Char :=
  if character = '+' then ' ' else character

/-- The text a part of a query stands for. Where the decoded bytes are no text, the escapes are
kept. -/
def decodePart (part : List Char) : String :=
  let written := String.ofList (part.map spaced)
  (Text.Percent.decode? written).getD written

/-- The parameter that one part of a query writes; without `=` its value is empty. -/
def parameter (part : List Char) : String × String :=
  let (key, value) := Text.cut '=' part
  (decodePart key, decodePart (value.getD []))

/-- Reads `path?query#fragment`. The fragment is dropped, an empty path is the root, and empty
parts of the query are passed over. -/
def parse (raw : String) : Url :=
  let line := (Text.cut '#' raw.toList).1
  let (path, search) := Text.cut '?' line
  { path := if path.isEmpty then "/" else String.ofList path
    query := ((Text.pieces '&' (search.getD [])).filter (!·.isEmpty)).map parameter }

/-- The encoded form of one parameter. -/
def parameterText (parameter : String × String) : String :=
  if parameter.2.isEmpty then Text.Percent.encode parameter.1
  else Text.Percent.encode parameter.1 ++ "=" ++ Text.Percent.encode parameter.2

/-- The text of a URL. -/
def text (url : Url) : String :=
  match url.query with
  | [] => url.path
  | query => url.path ++ "?" ++ "&".intercalate (query.map parameterText)

/-- The URL of a path without parameters. -/
def ofPath (path : String) : Url :=
  ⟨path, []⟩

/-- The URL with one more parameter at the end. -/
def withParameter (url : Url) (key value : String) : Url :=
  { url with query := url.query ++ [(key, value)] }

/-- The first value of a parameter. -/
def parameter? (url : Url) (key : String) : Option String :=
  url.query.lookup key

@[simp] theorem parameter?_withParameter_ofPath (path key value : String) :
    ((ofPath path).withParameter key value).parameter? key = some value := by
  simp [parameter?, withParameter, ofPath]

end Url

end RealmDesk
