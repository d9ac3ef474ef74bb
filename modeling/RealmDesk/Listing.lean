import RealmDesk.Json.Basic

/-!
# The video listing

The listing of a user's videos is sorted by one column and shown page by page. Order and page
travel in the query of the listing's URL, where the default order and the first page are left out,
and in the variables of the query that loads the page.
-/

namespace RealmDesk

/-- A column by which the listing can be sorted. -/
inductive SortColumn where
  /-- The title of a video. -/
  | title
  /-- How long a video is. -/
  | duration
  /-- When a video was created. -/
  | created
  /-- When a video was last changed. -/
  | updated
deriving DecidableEq, Inhabited

/-- The columns, in the order in which the table shows them. -/
def SortColumn.all : List SortColumn := [.title, .duration, .created, .updated]

/-- The value of the URL parameter for a column. -/
def SortColumn.parameter : SortColumn → String
  | .title => "title"
  | .duration => "duration"
  | .created => "created"
  | .updated => "updated"

/-- The column a URL parameter names. -/
def SortColumn.ofParameter? (text : String) : Option SortColumn :=
  all.find? (·.parameter == text)

/-- The name of a column in the query language. -/
def SortColumn.name : SortColumn → String
  | .title => "TITLE"
  | .duration => "DURATION"
  | .created => "CREATED"
  | .updated => "UPDATED"

@[simp] theorem SortColumn.ofParameter?_parameter (column : SortColumn) :
    ofParameter? column.parameter = some column := by
  cases column <;> rfl

/-- A direction of sorting. -/
inductive SortDirection where
  /-- Smallest first. -/
  | ascending
  /-- Largest first. -/
  | descending
deriving DecidableEq, Inhabited

/-- The value of the URL parameter for a direction. -/
def SortDirection.parameter : SortDirection → String
  | .ascending => "asc"
  | .descending => "desc"

/-- The direction a URL parameter names. -/
def SortDirection.ofParameter? : String → Option SortDirection
  | "asc" => some .ascending
  | "desc" => some .descending
  | _ => none

/-- The name of a direction in the query language. -/
def SortDirection.name : SortDirection → String
  | .ascending => "ASCENDING"
  | .descending => "DESCENDING"

@[simp] theorem SortDirection.ofParameter?_parameter (direction : SortDirection) :
    ofParameter? direction.parameter = some direction := by
  cases direction <;> rfl

/-- How the listing is sorted. -/
structure SortOrder where
  /-- The column that decides. -/
  column : SortColumn
  /-- Which end of the column comes first. -/
  direction : SortDirection
deriving DecidableEq, Inhabited

/-- The order of a listing that asks for none: newest first. -/
def SortOrder.standard : SortOrder := ⟨.created, .descending⟩

/-- The order after a click on the header of a column: ascending, or descending where the listing
is already sorted by that column in ascending order. -/
def SortOrder.toggled (order : SortOrder) (column : SortColumn) : SortOrder :=
  if order = ⟨column, .ascending⟩ then ⟨column, .descending⟩ else ⟨column, .ascending⟩

/-- A page of the listing. -/
inductive ListPage where
  /-- The first page. -/
  | first
  /-- The page after a cursor. -/
  | after (cursor : String)
  /-- The page before a cursor. -/
  | before (cursor : String)
  /-- The last page. -/
  | last
deriving DecidableEq, Inhabited

/-- A page of the listing in some order. -/
structure Listing where
  /-- How the videos are sorted. -/
  order : SortOrder
  /-- Which of them are shown. -/
  page : ListPage
deriving DecidableEq, Inhabited

namespace Listing

/-- The number of videos on a page. -/
def pageSize : Nat := 15

/-- The first page in an order. -/
def firstPage (order : SortOrder) : Listing := ⟨order, .first⟩

/-- The order that URL parameters ask for; both have to be given and known. -/
def orderOf (parameter? : String → Option String) : SortOrder :=
  match (parameter? "sortBy").bind SortColumn.ofParameter?,
      (parameter? "sortOrder").bind SortDirection.ofParameter? with
  | some column, some direction => ⟨column, direction⟩
  | _, _ => .standard

/-- The page that URL parameters ask for: `lastPage` wins over `before`, which wins over `after`. -/
def pageOf (parameter? : String → Option String) : ListPage :=
  match parameter? "lastPage", parameter? "before", parameter? "after" with
  | some _, _, _ => .last
  | none, some cursor, _ => if cursor.isEmpty then .last else .before cursor
  | none, none, some cursor => if cursor.isEmpty then .first else .after cursor
  | none, none, none => .first

/-- The listing that URL parameters ask for. -/
def decode (parameter? : String → Option String) : Listing :=
  ⟨orderOf parameter?, pageOf parameter?⟩

/-- The URL parameters of an order. -/
def orderParameters (order : SortOrder) : List (String × String) :=
  if order = .standard then []
  else [("sortBy", order.column.parameter), ("sortOrder", order.direction.parameter)]

/-- The URL parameters of a page; an empty cursor stands for the end it lies at. -/
def pageParameters : ListPage → List (String × String)
  | .first => []
  | .last => [("lastPage", "")]
  | .before cursor => if cursor.isEmpty then [("lastPage", "")] else [("before", cursor)]
  | .after cursor => if cursor.isEmpty then [] else [("after", cursor)]

/-- The URL parameters of a listing. -/
def encode (listing : Listing) : List (String × String) :=
  orderParameters listing.order ++ pageParameters listing.page

/-- The variables of the query that loads a listing. -/
def arguments (listing : Listing) : Json :=
  let size := Json.int pageSize
  let (first, last, after, before) : Json × Json × Json × Json :=
    match listing.page with
    | .first => (size, .null, .null, .null)
    | .after cursor => (size, .null, .str cursor, .null)
    | .before cursor => (.null, size, .null, .str cursor)
    | .last => (.null, size, .null, .null)
  .object [
    ("order", .object [
      ("column", .str listing.order.column.name),
      ("direction", .str listing.order.direction.name)]),
    ("first", first),
    ("last", last),
    ("after", after),
    ("before", before)]

end Listing

end RealmDesk
