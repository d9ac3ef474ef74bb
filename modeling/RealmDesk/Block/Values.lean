import RealmDesk.Block.Kind
import RealmDesk.Text.Blank

/-!
# Values of blocks

A form edits the values of a block, which need not be complete. Validation turns them into an
input that can be sent to the server, or names the fields that have to be filled in.
-/

namespace RealmDesk

/-- The values of a block as a form holds them. -/
inductive BlockValues where
  /-- A heading. -/
  | title (content : String)
  /-- A paragraph. -/
  | text (content : String)
  /-- A series, if one is chosen, and how it is shown. -/
  | series (series : Option String) (order : SeriesOrder) (showTitle showMetadata : Bool)
  /-- A video, if one is chosen, and how it is shown. -/
  | video (event : Option String) (showTitle : Bool)
deriving DecidableEq, Inhabited

/-- Values that can be sent to the server. -/
inductive BlockInput where
  /-- A heading. -/
  | title (content : String)
  /-- A paragraph. -/
  | text (content : String)
  /-- A series and how it is shown. -/
  | series (series : String) (order : SeriesOrder) (showTitle showMetadata : Bool)
  /-- A video, if one is chosen, and how it is shown. -/
  | video (event : Option String) (showTitle : Bool)
deriving DecidableEq, Inhabited

/-- Why a field of a block is refused. -/
inductive BlockFieldError where
  /-- The field has to be filled in. -/
  | required
deriving DecidableEq, Inhabited

/-- The text shown beside the field. -/
def BlockFieldError.message : BlockFieldError → String
  | .required => "This field is required."

/-- The refused fields of a block, in the order of their names. -/
abbrev BlockFieldErrors := List (String × BlockFieldError)

/-- The text that names the refused fields. -/
def BlockFieldErrors.message (errors : BlockFieldErrors) : String :=
  "invalid fields: " ++ ", ".intercalate (errors.map (·.1))

namespace BlockValues

/-- The kind of block the values are for. -/
def kind : BlockValues → BlockKind
  | .title _ => .title
  | .text _ => .text
  | .series .. => .series
  | .video .. => .video

/-- The id that a field names, as a link or as a plain text. -/
def linkedId? (record : Record) (field : String) : Option String :=
  match record.get? field with
  | some (.link target) => target.persisted?
  | some (.scalar value) => value.str?
  | _ => none

/-- The values of a record, read as a block of a kind. -/
def ofRecord (kind : BlockKind) (record : Record) : BlockValues :=
  let content := (record.str? Field.content).getD ""
  let showTitle := (record.bool? Field.showTitle).getD true
  match kind with
  | .title => .title content
  | .text => .text content
  | .series =>
      .series (linkedId? record Field.series)
        (((record.str? Field.order).bind SeriesOrder.ofText?).getD .newToOld)
        showTitle ((record.bool? Field.showMetadata).getD false)
  | .video => .video (linkedId? record Field.event) showTitle

/-- A chosen id, where a blank one counts as none. -/
def chosen (id : Option String) : Option String :=
  id.filter fun id => !Text.isEmptyOrBlank id

/-- The input the values make, or the fields that are refused: a heading needs a content that is
not blank, and a series block needs a series. -/
def validate : BlockValues → Except BlockFieldErrors BlockInput
  | .title content =>
      if Text.isEmptyOrBlank content then .error [(Field.content, .required)]
      else .ok (.title content)
  | .text content => .ok (.text content)
  | .series choice order showTitle showMetadata =>
      match chosen choice with
      | none => .error [(Field.series, .required)]
      | some id => .ok (.series id order showTitle showMetadata)
  | .video event showTitle => .ok (.video (chosen event) showTitle)

end BlockValues

namespace BlockInput

/-- The kind of block the input is for. -/
def kind : BlockInput → BlockKind
  | .title _ => .title
  | .text _ => .text
  | .series .. => .series
  | .video .. => .video

/-- The members that are sent to the server; a video that is not chosen is left out. -/
def members : BlockInput → List (String × Json)
  | .title content | .text content => [(Field.content, .str content)]
  | .series id order showTitle showMetadata => [
      (Field.series, .str id),
      (Field.order, .str order.text),
      (Field.showTitle, .bool showTitle),
      (Field.showMetadata, .bool showMetadata)]
  | .video event showTitle =>
      (event.map fun event => (Field.event, .str event)).toList ++
        [(Field.showTitle, .bool showTitle)]

/-- The input as an argument of a mutation. -/
def argument (input : BlockInput) : Json :=
  .object input.members

/-- The input with the name of its kind. -/
def labelled (input : BlockInput) : Json :=
  .object (("type", .str input.kind.name) :: input.members)

end BlockInput

/-- A block as a page shows it. -/
structure BlockView where
  /-- The id of the block. -/
  id : RecordId
  /-- The kind of block. -/
  kind : BlockKind
  /-- Whether the block is being edited. -/
  editMode : Bool
  /-- The values of the block. -/
  values : BlockValues
deriving DecidableEq

/-- The block a record is, if its type is that of a block. -/
def BlockView.ofRecord? (id : RecordId) (record : Record) : Option BlockView := do
  let kind ← record.blockKind?
  return ⟨id, kind, (record.bool? Field.editMode).getD false, .ofRecord kind record⟩

end RealmDesk
