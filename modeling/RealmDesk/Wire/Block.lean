import RealmDesk.Block.Values
import RealmDesk.Wire.Record

/-!
# Blocks in JSON

The values of a form and the input made of them are written alike: an object with the kind of block
and a member for every value.
-/

namespace RealmDesk

open Wire

/-- Reads the short name of a kind of block. -/
def BlockKind.ofJson : Json → Reading BlockKind :=
  choice "a kind of block" fun name => BlockKind.all.find? (·.name == name)

/-- Reads the order of a series. -/
def SeriesOrder.ofJson : Json → Reading SeriesOrder :=
  choice "an order of a series" SeriesOrder.ofText?

/-- The form of the values of a block. -/
def BlockValues.toJson (values : BlockValues) : Json :=
  let kind := ("kind", Json.str values.kind.name)
  match values with
  | .title content | .text content => .object [kind, ("content", .str content)]
  | .series chosen order showTitle showMetadata => .object [
      kind, ("series", ofOption .str chosen), ("order", .str order.text),
      ("showTitle", .bool showTitle), ("showMetadata", .bool showMetadata)]
  | .video event showTitle => .object [
      kind, ("event", ofOption .str event), ("showTitle", .bool showTitle)]

/-- Reads the values of a block. -/
def BlockValues.ofJson (value : Json) : Reading BlockValues := do
  match ← BlockKind.ofJson (← member value "kind") with
  | .title => return .title (← textOf value "content")
  | .text => return .text (← textOf value "content")
  | .series =>
      return .series (← asText? (value.get "series"))
        (← SeriesOrder.ofJson (← member value "order")) (← truthOf value "showTitle")
        (← truthOf value "showMetadata")
  | .video => return .video (← asText? (value.get "event")) (← truthOf value "showTitle")

/-- The input with the same values, where a series that is not chosen gets the empty id. Nothing is
refused. -/
def BlockValues.unchecked : BlockValues → BlockInput
  | .title content => .title content
  | .text content => .text content
  | .series chosen order showTitle showMetadata =>
      .series (chosen.getD "") order showTitle showMetadata
  | .video event showTitle => .video event showTitle

/-- Reads an input from the form of the values of a block. -/
def BlockInput.ofJson (value : Json) : Reading BlockInput :=
  (BlockValues.ofJson value).map BlockValues.unchecked

/-- The form of a block as a page shows it. -/
def BlockView.toJson (block : BlockView) : Json :=
  .object [
    ("id", block.id.toJson), ("kind", .str block.kind.name), ("editMode", .bool block.editMode),
    ("values", block.values.toJson)]

/-- The form of refused fields: an object with the text shown beside each. -/
def BlockFieldErrors.toJson (errors : BlockFieldErrors) : Json :=
  .object (errors.map fun error => (error.1, .str error.2.message))

end RealmDesk
