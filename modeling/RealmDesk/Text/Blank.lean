/-!
# Blank and control characters

White space is the Unicode property `White_Space`, a fixed list of code points, and a control
character is one of general category `Cc`. Both are needed over all of Unicode, where the
character classes of the core library know ASCII only.
-/

namespace RealmDesk.Text

/-- Whether a character has the Unicode property `White_Space`. -/
def isBlank (character : Char) : Bool :=
  let code := character.toNat
  (0x09 ≤ code && code ≤ 0x0D) || code == 0x20 || code == 0x85 || code == 0xA0 ||
    code == 0x1680 || (0x2000 ≤ code && code ≤ 0x200A) || code == 0x2028 || code == 0x2029 ||
    code == 0x202F || code == 0x205F || code == 0x3000

/-- Whether a character is a control character, general category `Cc`. -/
def isControl (character : Char) : Bool :=
  character.toNat < 0x20 || (0x7F ≤ character.toNat && character.toNat ≤ 0x9F)

/-- Whether a text holds nothing but white space. -/
def isEmptyOrBlank (text : String) : Bool :=
  text.toList.all isBlank

/-- The characters between the first and the last that are not white space. -/
def trimmed (characters : List Char) : List Char :=
  ((characters.dropWhile isBlank).reverse.dropWhile isBlank).reverse

/-- A text without the white space around it. -/
def trim (text : String) : String :=
  String.ofList (trimmed text.toList)

end RealmDesk.Text
