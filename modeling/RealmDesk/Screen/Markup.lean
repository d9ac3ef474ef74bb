import RealmDesk.Text.Blank

/-!
# Pages and their outlines

A page is a tree of nodes. Its outline lists what a reader of the page meets: texts, links, buttons,
inputs, rows and cells, in the order of the page. Texts that no element parts are one text, white
space around a text does not count, and a text of nothing but white space is left out.
-/

namespace RealmDesk.Screen

/-- A part of a page. -/
inductive Node where
  /-- A text. -/
  | text (content : String)
  /-- A link to an address. -/
  | link (address : String) (children : List Node)
  /-- A button. -/
  | button (enabled : Bool) (children : List Node)
  /-- A field to fill in, of a kind such as `text`. -/
  | input (kind : String) (id name : Option String)
  /-- The sign that something is going on. -/
  | spinner
  /-- A row of a table. -/
  | row (children : List Node)
  /-- A cell of a row. -/
  | cell (children : List Node)
  /-- Any other element. -/
  | box (children : List Node)
deriving Inhabited

namespace Node

/-- A link with a text. -/
def linkTo (address label : String) : Node :=
  .link address [.text label]

/-- An element that holds one text. -/
def label (content : String) : Node :=
  .box [.text content]

/-- A button that can be pressed. -/
def action (label : String) : Node :=
  .button true [.text label]

/-- A part of a page under a title and a description. -/
def card (title : String) (description content : List Node) : Node :=
  .box [.box [label title, .box description], .box content]

/-- A notice with a title. -/
def notice (title message : String) (actions : List Node) : Node :=
  .box (label title :: label message :: actions)

end Node

/-- An entry of an outline. -/
inductive Entry where
  /-- A text. -/
  | text (content : String)
  /-- A link to an address begins. -/
  | link (address : String)
  /-- A button begins. -/
  | button (enabled : Bool)
  /-- A field to fill in. -/
  | input (kind : String) (id name : Option String)
  /-- The sign that something is going on. -/
  | spinner
  /-- A row begins. -/
  | row
  /-- A cell begins. -/
  | cell
deriving DecidableEq, Inhabited

/-- What a page consists of when it is read from its beginning to its end. -/
inductive Mark where
  /-- A piece of text. -/
  | text (content : String)
  /-- The beginning or the end of an element, with its entry if it has one. -/
  | edge (entry : Option Entry)
deriving DecidableEq, Inhabited

/-- The marks of an element, given those of its children. -/
def element (entry : Option Entry) (children : List Mark) : List Mark :=
  .edge entry :: children ++ [.edge none]

mutual

/-- The marks of a node. -/
def Node.marks : Node → List Mark
  | .text content => [.text content]
  | .link address children => element (some (.link address)) (marksOf children)
  | .button enabled children => element (some (.button enabled)) (marksOf children)
  | .input kind id name => [.edge (some (.input kind id name))]
  | .spinner => [.edge (some .spinner)]
  | .row children => element (some .row) (marksOf children)
  | .cell children => element (some .cell) (marksOf children)
  | .box children => element none (marksOf children)

/-- The marks of nodes that follow one another. -/
def marksOf : List Node → List Mark
  | [] => []
  | node :: nodes => node.marks ++ marksOf nodes

end

/-- The entry of a run of text, unless it is blank. -/
def textEntry (run : String) : List Entry :=
  if Text.isEmptyOrBlank run then [] else [.text (Text.trim run)]

/-- The entries of marks that follow a run of text. -/
def gather (run : String) : List Mark → List Entry
  | [] => textEntry run
  | .text content :: marks => gather (run ++ content) marks
  | .edge entry :: marks => textEntry run ++ entry.toList ++ gather "" marks

/-- The outline of a page. -/
def outline (page : List Node) : List Entry :=
  gather "" (marksOf page)

end RealmDesk.Screen
