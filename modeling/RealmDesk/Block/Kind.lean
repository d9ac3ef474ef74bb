import RealmDesk.Record.Basic

/-!
# Kinds of blocks

A block of a realm's page is of one of four kinds, told by the type of its record.
-/

namespace RealmDesk

/-- A kind of block. -/
inductive BlockKind where
  /-- A heading. -/
  | title
  /-- A paragraph. -/
  | text
  /-- The videos of a series. -/
  | series
  /-- One video. -/
  | video
deriving DecidableEq, Inhabited

/-- How the videos of a series are ordered. -/
inductive SeriesOrder where
  /-- Newest first. -/
  | newToOld
  /-- Oldest first. -/
  | oldToNew
deriving DecidableEq, Inhabited

namespace SeriesOrder

/-- The text that stands for an order. -/
def text : SeriesOrder → String
  | .newToOld => "NEW_TO_OLD"
  | .oldToNew => "OLD_TO_NEW"

/-- The order a text stands for. -/
def ofText? : String → Option SeriesOrder
  | "NEW_TO_OLD" => some .newToOld
  | "OLD_TO_NEW" => some .oldToNew
  | _ => none

@[simp] theorem ofText?_text (order : SeriesOrder) : ofText? order.text = some order := by
  cases order <;> rfl

end SeriesOrder

namespace BlockKind

/-- All kinds, in the order in which they are offered. -/
def all : List BlockKind := [.title, .text, .series, .video]

/-- The short name of a kind. -/
def name : BlockKind → String
  | .title => "Title"
  | .text => "Text"
  | .series => "Series"
  | .video => "Video"

/-- The type of the records of a kind. -/
def typeTag (kind : BlockKind) : String :=
  kind.name ++ "Block"

/-- The kind of the records of a type. -/
def ofTypeTag? (tag : String) : Option BlockKind :=
  all.find? (·.typeTag == tag)

/-- The label under which a kind is offered. -/
def label : BlockKind → String
  | .title => "Title"
  | .text => "Text"
  | .series => "Video series"
  | .video => "Video"

/-- The fields of a new block of a kind. -/
def defaultFields : BlockKind → FieldMap
  | .title | .text => FieldMap.ofList [(Field.content, .scalar (.str ""))]
  | .series => FieldMap.ofList [
      (Field.series, .scalar .null),
      (Field.order, .scalar (.str SeriesOrder.newToOld.text)),
      (Field.showTitle, .scalar (.bool true)),
      (Field.showMetadata, .scalar (.bool false))]
  | .video => FieldMap.ofList [
      (Field.event, .scalar .null),
      (Field.showTitle, .scalar (.bool true))]

@[simp] theorem ofTypeTag?_typeTag (kind : BlockKind) : ofTypeTag? kind.typeTag = some kind := by
  cases kind <;> rfl

end BlockKind

/-- The kind of block a record is, if it is a block. -/
def Record.blockKind? (record : Record) : Option BlockKind :=
  BlockKind.ofTypeTag? record.typeTag

end RealmDesk
