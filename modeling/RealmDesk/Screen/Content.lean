import RealmDesk.Editing.Editor
import RealmDesk.Screen.Realm

/-!
# The content of a realm

The page lists the blocks of a realm, each as it looks or as a form while it is being edited. Before
every block and behind the last one new blocks can be added.
-/

namespace RealmDesk.Screen

/-- The controls that add a block. -/
def addRow : Node :=
  .box (.label "Add" :: BlockKind.all.map fun kind => .action kind.label)

/-- The title of a series or a video, or its id where the title is not known. -/
def linkedTitle (records : Records) (id : String) : String :=
  ((records[RecordId.persisted id]?).bind (·.str? Field.title)).getD id

/-- The order of a series in words. -/
def orderWords : SeriesOrder → String
  | .newToOld => "newest first"
  | .oldToNew => "oldest first"

/-- What a block says while it is not edited. -/
def blockText (records : Records) : BlockValues → String
  | .title content | .text content => content
  | .series chosen order _ _ =>
      let title := (chosen.map (linkedTitle records)).getD "No series selected"
      "Series: " ++ title ++ " (" ++ orderWords order ++ ")"
  | .video event _ => "Video: " ++ (event.map (linkedTitle records)).getD "No video selected"

/-- A block that is not edited. -/
def blockDisplay (records : Records) (values : BlockValues) : Node :=
  .box [.box [.label (blockText records values)], .action "Edit"]

/-- A control that is switched on and off. -/
def checkbox (label : String) : Node :=
  .box [.input "checkbox" none none, .text label]

/-- A control of which one of a group is chosen. -/
def radio (group label : String) : Node :=
  .box [.input "radio" none (some group), .text label]

/-- The field for a text. -/
def textField (label : String) : List Node :=
  [.label label, .input "text" (some "") none]

/-- The fields of the form of a block. -/
def formFields (block : RecordId) : BlockKind → List Node
  | .title => textField BlockKind.title.label
  | .text => textField BlockKind.text.label
  | .series =>
      let group := "order-" ++ block.text
      textField "Series id" ++ [
        .box [radio group "Newest first", radio group "Oldest first"],
        checkbox "Show title", checkbox "Show metadata"]
  | .video => textField "Video id" ++ [checkbox "Show title"]

/-- What a form says about the values that were refused. -/
def refusal? (form : BlockForm) : Option String :=
  form.errors.head?.map fun error => error.1 ++ ": " ++ error.2.message

/-- The form of a block that is edited; there may be no state kept of it yet. -/
def blockForm (block : RecordId) (kind : BlockKind) (form : Option BlockForm) : Node :=
  let busy := form.any (·.inFlight.isSome)
  let refused := (form.bind refusal?).map Node.label
  let failed := (form.bind (·.submitError)).map fun error => Node.box [.label error.message]
  let saving := if busy then [Node.spinner] else []
  .box (.box (formFields block kind) :: refused.toList ++ failed.toList ++ [
    .box [.button (!busy) [.box (saving ++ [.text "Save"])], .button (!busy) [.text "Cancel"]]])

/-- A block of the list, unless its record is missing or no block. -/
def blockItem (records : Records) (editor : Editor) (block : RecordId) : List Node :=
  match (records[block]?).bind (BlockView.ofRecord? block) with
  | none => []
  | some view =>
      if view.editMode then [blockForm block view.kind (editor.form? block)]
      else [blockDisplay records view.values]

/-- The content of a realm. -/
def realmContent (realm : RealmView) (records : Records) (editor : Editor) : List Node :=
  let blocks := ((records[realm.id]?).map (·.links Field.blocks)).getD []
  [.card (realmTitle realm)
    [.linkTo (Place.realmSettings realm.path).address realm.path]
    (blocks.flatMap (fun block => addRow :: blockItem records editor block) ++ [addRow])]

end RealmDesk.Screen
