import RealmDesk.Place
import RealmDesk.Screen.Markup
import RealmDesk.Text.Cut

/-!
# The table of videos

The table shows one page of a user's videos. The header of every column leads to the listing sorted
by it, and links below the table lead to the pages around.
-/

namespace RealmDesk.Screen

/-- The header of a column. -/
def columnLabel : SortColumn → String
  | .title => "Title"
  | .duration => "Duration"
  | .created => "Created"
  | .updated => "Updated"

/-- The mark in the header of the column that decides the order. -/
def columnMark (order : SortOrder) (column : SortColumn) : String :=
  if order.column = column then
    match order.direction with
    | .ascending => " ↑"
    | .descending => " ↓"
  else ""

/-- The header of a column, as a link to the listing after a click on it. -/
def columnHeader (order : SortOrder) (column : SortColumn) : Node :=
  .box [.linkTo (Place.videos (.firstPage (order.toggled column))).address
    (columnLabel column ++ columnMark order column)]

/-- A number with two digits at least. -/
def twoDigits (number : Nat) : String :=
  if number < 10 then "0" ++ number.repr else number.repr

/-- A duration in hours, minutes and seconds, from milliseconds; a negative one counts as none. -/
def durationText (milliseconds : Int) : String :=
  let seconds := milliseconds.toNat / 1000
  let minutes := seconds / 60
  let hours := minutes / 60
  if 0 < hours then
    hours.repr ++ ":" ++ twoDigits (minutes % 60) ++ ":" ++ twoDigits (seconds % 60)
  else minutes.repr ++ ":" ++ twoDigits (seconds % 60)

/-- The day of a date with a time. -/
def dayText (date : String) : String :=
  String.ofList (Text.cut 'T' date.toList).1

/-- The row of a video; what is not given is left empty. -/
def videoRow (video : Json) : Node :=
  let cell (content : Option String) : Node := .cell [.text (content.getD "")]
  .row [
    cell (video.get "title").str?,
    cell ((video.get "duration").int64?.map durationText),
    cell ((video.get "created").str?.map dayText),
    cell ((video.get "updated").str?.map dayText)]

/-- Which videos are shown, of how many. -/
def rangeText (connection : Json) : String :=
  let total := (connection.get "totalCount").int64?.getD 0
  let info := connection.get "pageInfo"
  match (info.get "startIndex").int64?, (info.get "endIndex").int64? with
  | some first, some last => (first + 1).repr ++ "–" ++ (last + 1).repr ++ " of " ++ total.repr
  | _, _ => total.repr ++ " videos"

/-- The pages around a page, each if there is such a page. -/
def pagesAround (info : Json) : List (String × Option ListPage) :=
  let hasPrevious := (info.get "hasPreviousPage").bool?.getD false
  let hasNext := (info.get "hasNextPage").bool?.getD false
  let cursor (key : String) := (info.get key).str?
  let when (present : Bool) (page : Option ListPage) := if present then page else none
  [("First", when hasPrevious (some .first)),
    ("Previous", when hasPrevious ((cursor "startCursor").map .before)),
    ("Next", when hasNext ((cursor "endCursor").map .after)),
    ("Last", when hasNext (some .last))]

/-- A link to a page, or its label where there is none. -/
def pageLink (order : SortOrder) (label : String) : Option ListPage → Node
  | some page => .linkTo (Place.videos ⟨order, page⟩).address label
  | none => .label label

/-- The listing of a user's videos. -/
def videoTable (order : SortOrder) (connection : Json) : List Node :=
  let videos := (connection.get "items").items?.getD []
  let around := pagesAround (connection.get "pageInfo")
  [.card "My videos" [.text (rangeText connection)] [
    .box [
      .box [.row (SortColumn.all.map (columnHeader order))],
      .box (videos.map videoRow)],
    .box (around.map fun target => pageLink order target.1 target.2)]]

end RealmDesk.Screen
