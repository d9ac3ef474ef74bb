import RealmDesk.Text.Numeral

/-!
# Punycode

A label beyond ASCII is written in ASCII: its ASCII characters, a hyphen, and numbers that say
which characters come in between and where. The numbers are written in digits of base 36, the
lowest digit first. A digit below the threshold of its place ends its number, and the thresholds
adapt to the numbers that came before.
-/

namespace RealmDesk.Domain.Punycode

/-- The value of a digit: letters are zero to 25, and the digits of decimal numbers follow. -/
def digit? (character : Char) : Option Nat :=
  "abcdefghijklmnopqrstuvwxyz0123456789".toList.idxOf? character

/-- The threshold of a place. -/
def threshold (bias place : Nat) : Nat :=
  if place ≤ bias then 1 else if bias + 26 ≤ place then 26 else place - bias

/-- The bias that fits a number, in steps of a whole base while the number is large. -/
def biasOf (number : Nat) : Nat :=
  if 455 < number then 36 + biasOf (number / 35) else 36 * number / (number + 38)
termination_by number
decreasing_by exact Nat.div_lt_self (by omega) (by omega)

/-- The bias after a number. The first number counts much less than others, and all count less the
longer the text is. -/
def adapted (number length : Nat) (isFirst : Bool) : Nat :=
  let halved := if isFirst then number / 700 else number / 2
  biasOf (halved + halved / length)

/-- How far a text is decoded. -/
structure Decoding where
  /-- The characters so far. -/
  output : List Char
  /-- The code point of the character that was put in last. -/
  code : Nat := 128
  /-- Where the current number starts to count. -/
  start : Nat := 0
  /-- Where it has counted to. -/
  index : Nat := 0
  /-- The bias. -/
  bias : Nat := 72
  /-- The place of the next digit. -/
  place : Nat := 36
  /-- The weight of the next digit. -/
  weight : Nat := 1

namespace Decoding

/-- Puts in the character at the end of a number. Counting past the end of the text goes on at its
front with the next code point. -/
def put? (decoding : Decoding) : Option Decoding :=
  let length := decoding.output.length + 1
  let code := decoding.code + decoding.index / length
  let index := decoding.index % length
  if code.isValidChar then
    some {
      output := decoding.output.insertIdx index (Char.ofNat code)
      code
      start := index + 1
      index := index + 1
      bias := adapted (decoding.index - decoding.start) length (decoding.start = 0) }
  else none

/-- Takes over one digit. Numbers are refused from `2 ^ 32` on. -/
def step? (decoding : Decoding) (character : Char) : Option Decoding := do
  let digit ← digit? character
  let threshold := threshold decoding.bias decoding.place
  let counted := { decoding with index := decoding.index + digit * decoding.weight }
  let weight := decoding.weight * (36 - threshold)
  if 0x100000000 ≤ counted.index then none
  else if digit < threshold then counted.put?
  else if 0x100000000 ≤ weight then none
  else some { counted with place := decoding.place + 36, weight }

end Decoding

/-- The ASCII characters of an encoded text, and the digits after them. -/
def split (encoded : List Char) : List Char × List Char :=
  let digits := (encoded.reverse.takeWhile (· ≠ '-')).reverse
  let before := encoded.take (encoded.length - digits.length)
  if before.length ≤ 1 then ([], encoded) else (before.dropLast, digits)

/-- The text that is encoded. -/
def decode? (encoded : List Char) : Option (List Char) := do
  let (letters, digits) := split encoded
  if letters.all (·.toNat < 0x80) then
    let decoding ← digits.foldlM Decoding.step? { output := letters }
    if decoding.place = 36 then some decoding.output else none
  else none

end RealmDesk.Domain.Punycode
