import RealmDesk.Text.Numeral

/-!
# Tables of characters

A table is written as rows of code points in hexadecimal digits. The rows end with a semicolon or
with the line. A set of characters is a table of ranges: a row holds the first and the last
character of a range, or the only one.
-/

namespace RealmDesk.Text

/-- The rows of a table. -/
def rows (table : String) : List (List Nat) :=
  let lines := (table.splitOn "\n").flatMap (·.splitOn ";")
  (lines.filter (· ≠ "")).map fun line =>
    (line.splitOn " ").map fun word => (numeral? 16 word.toList).getD 0

/-- A set of characters, by ranges of code points. -/
structure CodeSet where
  /-- The first and the last code point of every range. -/
  ranges : Array (Nat × Nat)

namespace CodeSet

/-- The set that a table writes. -/
def ofText (table : String) : CodeSet where
  ranges := ((rows table).filterMap fun row =>
    match row with
    | [code] => some (code, code)
    | [first, last] => some (first, last)
    | _ => none).toArray

/-- Whether a character is in the set. -/
def contains (set : CodeSet) (character : Char) : Bool :=
  set.ranges.any fun range => range.1 ≤ character.toNat && character.toNat ≤ range.2

end CodeSet

end RealmDesk.Text
