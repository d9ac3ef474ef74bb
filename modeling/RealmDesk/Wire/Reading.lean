import RealmDesk.Json.Basic

/-!
# Reading values from JSON

Ids, records, forms and places have a JSON form in which they are handed from one program to the
next. A value that is not of the expected form is refused with the first mismatch found in it.
-/

namespace RealmDesk.Wire

/-- Why a JSON value is not read. -/
inductive Mismatch where
  /-- A member is missing. -/
  | missing (key : String)
  /-- The value is not of the expected form. -/
  | notA (form : String)
deriving DecidableEq, Inhabited

/-- The text of the mismatch. -/
def Mismatch.message : Mismatch → String
  | .missing key => "there is no member " ++ key
  | .notA form => "this is not " ++ form

/-- What is read from a JSON value. -/
abbrev Reading := Except Mismatch

/-- The value of a member. -/
def member (value : Json) (key : String) : Reading Json :=
  match value.member? key with
  | some found => .ok found
  | none => .error (.missing key)

/-- The value of a member that may be missing or `null`. -/
def optional? (value : Json) (key : String) : Option Json :=
  match value.member? key with
  | some .null => none
  | found => found

/-- A text. -/
def asText : Json → Reading String
  | .str value => .ok value
  | _ => .error (.notA "a text")

/-- A text, or `null` for none. -/
def asText? : Json → Reading (Option String)
  | .null => .ok none
  | value => (asText value).map some

/-- A natural number. -/
def asNumber : Json → Reading Nat
  | .int (.ofNat value) => .ok value
  | _ => .error (.notA "a natural number")

/-- A truth value. -/
def asTruth : Json → Reading Bool
  | .bool value => .ok value
  | _ => .error (.notA "a truth value")

/-- The items of a list. -/
def asItems : Json → Reading (List Json)
  | .arr items => .ok items
  | _ => .error (.notA "a list")

/-- The members of an object. -/
def asMembers : Json → Reading (List (String × Json))
  | .obj members => .ok members
  | _ => .error (.notA "an object")

/-- The text of a member. -/
def textOf (value : Json) (key : String) : Reading String := do
  asText (← member value key)

/-- The natural number of a member. -/
def numberOf (value : Json) (key : String) : Reading Nat := do
  asNumber (← member value key)

/-- The truth value of a member. -/
def truthOf (value : Json) (key : String) : Reading Bool := do
  asTruth (← member value key)

/-- The items of the list of a member. -/
def itemsOf (value : Json) (key : String) : Reading (List Json) := do
  asItems (← member value key)

/-- The choice that a text names. -/
def choice {α : Type} (form : String) (find? : String → Option α) (value : Json) : Reading α :=
  match value.str?.bind find? with
  | some found => .ok found
  | none => .error (.notA form)

/-- The form of a value that may be missing: `null` stands for none. -/
def ofOption {α : Type} (form : α → Json) : Option α → Json
  | none => .null
  | some value => form value

/-- The form of a list. -/
def ofList {α : Type} (form : α → Json) (values : List α) : Json :=
  .arr (values.map form)

/-- The form of a natural number. -/
def ofNat (value : Nat) : Json :=
  .int value

end RealmDesk.Wire
