import RealmDesk.Json.Basic

/-!
# Writing JSON text

Values are written without blanks. Quotes, backslashes and control characters below the space are
escaped, by a letter where there is one.
-/

namespace RealmDesk.Json

/-- The last two hexadecimal digits of a character below the space. -/
private def controlDigits (code : Nat) : List Char :=
  [Nat.digitChar (code / 16), Nat.digitChar (code % 16)]

/-- The characters that write one character of a text. -/
private def writtenCharacter (character : Char) : List Char :=
  match character with
  | '"' => ['\\', '"']
  | '\\' => ['\\', '\\']
  | '\x08' => ['\\', 'b']
  | '\x0c' => ['\\', 'f']
  | '\n' => ['\\', 'n']
  | '\r' => ['\\', 'r']
  | '\t' => ['\\', 't']
  | other =>
      if other.toNat < 0x20 then ['\\', 'u', '0', '0'] ++ controlDigits other.toNat else [other]

/-- A text in quotes. -/
def writtenText (text : String) : String :=
  "\"" ++ String.ofList (text.toList.flatMap writtenCharacter) ++ "\""

mutual

/-- The text of a value. -/
def render : Json → String
  | .null => "null"
  | .bool true => "true"
  | .bool false => "false"
  | .int value => value.repr
  | .double value => value.text
  | .str value => writtenText value
  | .arr items => "[" ++ renderItems items ++ "]"
  | .obj members => "\x7b" ++ renderMembers members ++ "\x7d"

/-- The texts of the items of a list, with commas between them. -/
def renderItems : List Json → String
  | [] => ""
  | [item] => render item
  | item :: items => render item ++ "," ++ renderItems items

/-- The texts of the members of an object, with commas between them. -/
def renderMembers : List (String × Json) → String
  | [] => ""
  | [(key, value)] => writtenText key ++ ":" ++ render value
  | (key, value) :: members =>
      writtenText key ++ ":" ++ render value ++ "," ++ renderMembers members

end

end RealmDesk.Json
