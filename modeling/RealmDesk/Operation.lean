import RealmDesk.Block.Values
import RealmDesk.Listing

/-!
# Queries and mutations

An operation is a document of the query language with its name and its variables. Every selection
that asks for an `id` asks for the type beside it, since both are needed to keep the answer as
records.
-/

namespace RealmDesk

/-- An operation that can be sent to the server. -/
structure Operation where
  /-- The name of the operation. -/
  name : String
  /-- The text of its document. -/
  document : String
  /-- The values of its variables. -/
  arguments : Json
deriving DecidableEq, Inhabited

namespace Operation

/-- The operation as it is sent. -/
def body (operation : Operation) : Json :=
  .object [
    ("operationName", .str operation.name),
    ("query", .str operation.document),
    ("variables", operation.arguments)]

/-- Texts on lines of their own. -/
private def lines (texts : List String) : String :=
  "\n".intercalate texts

/-- Selects the user. -/
private def userSelection : String :=
  "    currentUser \x7b __typename username displayName \x7d"

/-- Selects the child realms of a realm. -/
private def childrenSelection : String :=
  "children \x7b __typename id name path \x7d"

/-- Selects a block with the fields of every kind, after the text that opens the selection and
before the text that closes it. -/
private def blockSelection (opening closing : String) : String :=
  lines [
    opening,
    "    __typename id",
    "    ... on TitleBlock \x7b content \x7d",
    "    ... on TextBlock \x7b content \x7d",
    "    ... on SeriesBlock \x7b series \x7b __typename id title \x7d order showTitle " ++
      "showMetadata \x7d",
    "    ... on VideoBlock \x7b event \x7b __typename id title \x7d showTitle \x7d",
    closing]

/-- Asks for the user. -/
private def dashboardDocument : String :=
  lines ["", "query ManageDashboard \x7b", userSelection, "\x7d"]

/-- Asks for the realm at a path and its children. -/
private def realmSettingsDocument : String :=
  lines [
    "",
    "query RealmManage($path: String!) \x7b",
    userSelection,
    "    realm: realmByPath(path: $path) \x7b",
    "        __typename id name isRoot path canCurrentUserEdit numberOfDescendants",
    "        " ++ childrenSelection,
    "    \x7d",
    "\x7d"]

/-- Asks for the realm at a path, below which a child is to be added. -/
private def addChildDocument : String :=
  lines [
    "",
    "query AddChild($parent: String!) \x7b",
    userSelection,
    "    parent: realmByPath(path: $parent) \x7b",
    "        __typename id name isRoot path canCurrentUserEdit",
    "        " ++ childrenSelection,
    "    \x7d",
    "\x7d"]

/-- Asks for the realm at a path and its blocks. -/
private def realmContentDocument : String :=
  blockSelection
    (lines [
      "",
      "query RealmContent($path: String!) \x7b",
      userSelection,
      "    realm: realmByPath(path: $path) \x7b",
      "        __typename id name isRoot path canCurrentUserEdit",
      "        blocks \x7b"])
    (lines ["\x7d", "    \x7d", "\x7d"])

/-- Asks for a page of the videos of the user. -/
private def videosDocument : String :=
  lines [
    "",
    "query VideoManage($order: EventSortOrder!, $after: Cursor, $before: Cursor, $first: Int, " ++
      "$last: Int) \x7b",
    "    currentUser \x7b",
    "        __typename username displayName",
    "        myVideos(order: $order, after: $after, before: $before, first: $first, " ++
      "last: $last) \x7b",
    "            totalCount",
    "            pageInfo \x7b hasNextPage hasPreviousPage startCursor endCursor startIndex " ++
      "endIndex \x7d",
    "            items \x7b __typename id title duration thumbnail created updated " ++
      "description \x7d",
    "        \x7d",
    "    \x7d",
    "\x7d"]

/-- Adds a realm and asks for it. -/
private def addChildRealmDocument : String :=
  lines [
    "",
    "mutation AddChildRealm($realm: NewRealm!) \x7b",
    "    addRealm(realm: $realm) \x7b",
    "        __typename id name path",
    "        parent \x7b __typename id " ++ childrenSelection ++ " \x7d",
    "    \x7d",
    "\x7d"]

/-- Adds a block of a kind and asks for the blocks of its realm. -/
private def createBlockDocument (kind : BlockKind) : String :=
  blockSelection
    (lines [
      "mutation Add" ++ kind.typeTag ++ "($realm: ID!, $index: Int!, $block: New" ++
        kind.typeTag ++ "!) \x7b",
      "    add" ++ kind.typeTag ++ "(realm: $realm, index: $index, block: $block) \x7b",
      "        __typename id",
      "        blocks \x7b"])
    (lines ["\x7d", "    \x7d", "\x7d"])

/-- Changes a block of a kind and asks for it. -/
private def updateBlockDocument (kind : BlockKind) : String :=
  blockSelection
    (lines [
      "mutation Update" ++ kind.typeTag ++ "($id: ID!, $set: Update" ++ kind.typeTag ++
        "!) \x7b",
      "    update" ++ kind.typeTag ++ "(id: $id, set: $set) \x7b"])
    (lines ["\x7d", "\x7d"])

/-- Loads the dashboard. -/
def dashboard : Operation :=
  ⟨"ManageDashboard", dashboardDocument, .object []⟩

/-- Loads the settings of the realm at a path. -/
def realmSettings (path : String) : Operation :=
  ⟨"RealmManage", realmSettingsDocument, .object [("path", .str path)]⟩

/-- Loads the realm at a path, below which a child is to be added. -/
def addChild (parent : String) : Operation :=
  ⟨"AddChild", addChildDocument, .object [("parent", .str parent)]⟩

/-- Loads the realm at a path with its blocks. -/
def realmContent (path : String) : Operation :=
  ⟨"RealmContent", realmContentDocument, .object [("path", .str path)]⟩

/-- Loads a page of the user's videos. -/
def videos (listing : Listing) : Operation :=
  ⟨"VideoManage", videosDocument, listing.arguments⟩

/-- Adds a child realm below the realm with an id. -/
def addChildRealm (parent name segment : String) : Operation :=
  ⟨"AddChildRealm", addChildRealmDocument, .object [
    ("realm", .object [
      ("parent", .str parent), ("name", .str name), ("pathSegment", .str segment)])]⟩

/-- The field of the answer to the mutation that creates a block of a kind. -/
def createBlockField (kind : BlockKind) : String :=
  "add" ++ kind.typeTag

/-- The field of the answer to the mutation that updates a block of a kind. -/
def updateBlockField (kind : BlockKind) : String :=
  "update" ++ kind.typeTag

/-- Creates a block at an index of the realm with an id. -/
def createBlock (realm : String) (index : Nat) (input : BlockInput) : Operation :=
  ⟨"Add" ++ input.kind.typeTag, createBlockDocument input.kind, .object [
    ("realm", .str realm), ("index", .int index), ("block", input.argument)]⟩

/-- Updates the block with an id. -/
def updateBlock (id : String) (input : BlockInput) : Operation :=
  ⟨"Update" ++ input.kind.typeTag, updateBlockDocument input.kind, .object [
    ("id", .str id), ("set", input.argument)]⟩

end Operation

end RealmDesk
