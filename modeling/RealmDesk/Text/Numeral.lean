/-!
# Numerals

Digits in a radix up to sixteen, and the numbers they write.
-/

namespace RealmDesk.Text

/-- The value of a digit in a radix; the digits above nine are lower-case letters. -/
def digit? (radix : Nat) (character : Char) : Option Nat :=
  ("0123456789abcdef".toList.take radix).idxOf? character

/-- The number that digits write in a radix; no digits write zero. -/
def numeral? (radix : Nat) (digits : List Char) : Option Nat :=
  digits.foldlM (fun number character => (digit? radix character).map (number * radix + ·)) 0

end RealmDesk.Text
