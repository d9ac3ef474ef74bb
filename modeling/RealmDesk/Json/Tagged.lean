import RealmDesk.Json.Basic
import RealmDesk.Text.Printable

/-!
# The tagged form of a value

An error text that quotes a JSON value names the kind of every part of it, such as `Number(5)`,
`String("x")` and `Array [Null]`. Texts are quoted, and characters that cannot be shown are written
by their code point.
-/

namespace RealmDesk.Json

/-- The characters that show one character of a quoted text. -/
private def shownCharacter (character : Char) : List Char :=
  match character with
  | '\x00' => ['\\', '0']
  | '\t' => ['\\', 't']
  | '\r' => ['\\', 'r']
  | '\n' => ['\\', 'n']
  | '\\' => ['\\', '\\']
  | '"' => ['\\', '"']
  | other =>
      if Text.isPrintable other then [other]
      else ['\\', 'u', '\x7b'] ++ Nat.toDigits 16 other.toNat ++ ['\x7d']

/-- A text in quotes, with what cannot be shown written by its code point. -/
def shownText (text : String) : String :=
  "\"" ++ String.ofList (text.toList.flatMap shownCharacter) ++ "\""

mutual

/-- The tagged form of a value. -/
def tagged : Json → String
  | .null => "Null"
  | .bool true => "Bool(true)"
  | .bool false => "Bool(false)"
  | .int value => "Number(" ++ value.repr ++ ")"
  | .double value => "Number(" ++ value.text ++ ")"
  | .str value => "String(" ++ shownText value ++ ")"
  | .arr items => "Array [" ++ taggedItems items ++ "]"
  | .obj members => "Object \x7b" ++ taggedMembers members ++ "\x7d"

/-- The tagged forms of the items of a list, with commas between them. -/
def taggedItems : List Json → String
  | [] => ""
  | [item] => tagged item
  | item :: items => tagged item ++ ", " ++ taggedItems items

/-- The tagged forms of the members of an object, with commas between them. -/
def taggedMembers : List (String × Json) → String
  | [] => ""
  | [(key, value)] => shownText key ++ ": " ++ tagged value
  | (key, value) :: members =>
      shownText key ++ ": " ++ tagged value ++ ", " ++ taggedMembers members

end

end RealmDesk.Json
