import RealmDesk.Json.Basic
import RealmDesk.Json.Scan

/-!
# Reading JSON text

A numeral without a fraction and an exponent that fits 64 bits, signed or unsigned, is an integer
and any other is a double; minus zero is a double. A document may nest 127 lists and objects.
Values that are only read over may nest without a limit, and neither the size of their numbers nor
the pairing of their surrogates is looked at.
-/

namespace RealmDesk.Json

/-- The value of a decimal digit. -/
private def digitValue (digit : Char) : Nat :=
  digit.toNat - '0'.toNat

/-- The first natural number that does not fit 64 bits. -/
def wordBound : Nat := 0x10000000000000000

/-- The number that digits write, as far as it fits 64 bits, and the digits after that. -/
private def significantDigits (number : Nat) : List Char → Nat × List Char
  | [] => (number, [])
  | digit :: digits =>
      let longer := number * 10 + digitValue digit
      if longer < wordBound then significantDigits longer digits else (number, digit :: digits)

/-- The largest exponent that is looked at; the number is zero or too large beyond it. -/
private def greatestExponent : Nat := 0x7FFFFFFF

/-- The double a numeral stands for: the digits that fit 64 bits count, and each further digit of
the whole part multiplies by ten. -/
private def Numeral.double? (numeral : Numeral) : Option Double :=
  let (whole, dropped) := significantDigits 0 numeral.whole
  let fraction := numeral.fraction.getD []
  let (significand, ignored) := significantDigits whole fraction
  let shift : Int := (dropped.length : Int) - ((fraction.length : Int) - ignored.length)
  let scaled (exponent : Int) : Option Double :=
    Double.ofDecimal? numeral.negative (UInt64.ofNat significand) exponent
  match numeral.exponent with
  | none => scaled shift
  | some (negative, digits) =>
      let exponent := digits.foldl (fun number digit => number * 10 + digitValue digit) 0
      if exponent ≤ greatestExponent then
        scaled (if negative then shift - exponent else shift + exponent)
      else if significand = 0 || negative then
        some (if numeral.negative then .negativeZero else .zero)
      else none

/-- The value a numeral stands for; `none` where it is too large. -/
def Numeral.value? (numeral : Numeral) : Option Json :=
  match numeral.fraction, numeral.exponent with
  | none, none =>
      let number := numeral.whole.foldl (fun number digit => number * 10 + digitValue digit) 0
      if number < wordBound then
        if !numeral.negative then some (.int number)
        else if 0 < number && number ≤ wordBound / 2 then some (.int (-number))
        else some (.double (Double.ofWhole true (UInt64.ofNat number)))
      else numeral.double?.map .double
  | _, _ => numeral.double?.map .double

/-- What a reader makes of each kind of value. -/
structure Reading (κ α : Type) where
  /-- Makes the name of a member. -/
  key : {characters : List Char} → Quoted characters → Scan κ characters
  /-- Makes a text. -/
  text : {characters : List Char} → Quoted characters → Scan α characters
  /-- Makes a number; `none` where it is refused. -/
  number : Numeral → Option α
  /-- Makes a truth value. -/
  truth : Bool → α
  /-- Makes the value `null`. -/
  nothing : α
  /-- Makes a list of its items. -/
  list : List α → α
  /-- Makes an object of its members, in the order in which they are written. -/
  object : List (κ × α) → α

/-- Reads one value. The budget is the number of levels that may still be nested, `none` for any
number. -/
def Reading.value {κ α : Type} (reading : Reading κ α) (budget : Option Nat)
    (characters : List Char) : Scan α characters :=
  byFirst characters fun first rest shorter =>
    let literal (expected : List Char) (value : α) : Scan α characters := do
      let ⟨rest, within⟩ ← word expected rest
      return ⟨value, rest, by omega⟩
    let inside : Except Fault (Option Nat) :=
      match budget with
      | none => .ok none
      | some 0 => .error .malformed
      | some (deeper + 1) => .ok (some deeper)
    match first with
    | 'n' => literal ['u', 'l', 'l'] reading.nothing
    | 't' => literal ['r', 'u', 'e'] (reading.truth true)
    | 'f' => literal ['a', 'l', 's', 'e'] (reading.truth false)
    | '"' => (reading.text (quoted rest)).map (·.behind shorter)
    | '[' => do
        let inside ← inside
        let parsed ← items characters.length
          (fun read start _ => do
            let item ← reading.value inside start
            return item.map fun value => value :: read)
          true [] rest shorter
        return (parsed.map fun read => reading.list read.reverse).extend (by omega)
    | '\x7b' => do
        let inside ← inside
        let parsed ← members characters.length reading.key
          (fun read key start _ => do
            let member ← reading.value inside start
            return member.map fun value => (key, value) :: read)
          true [] rest shorter
        return (parsed.map fun read => reading.object read.reverse).extend (by omega)
    | first => do
        if first != '-' && !first.isDigit then
          throw .malformed
        let parsed ← numeral (first :: rest)
        match reading.number parsed.value with
        | some value => return ⟨value, parsed.rest, by
            have parsed_shorter := parsed.shorter
            simp only [List.length_cons] at parsed_shorter
            omega⟩
        | none => throw .malformed
termination_by characters.length
decreasing_by all_goals omega

/-- Reads a value in full. -/
def complete : Reading String Json where
  key := Quoted.text
  text quoted := quoted.text.map (·.map .str)
  number := Numeral.value?
  truth := .bool
  nothing := .null
  list := .arr
  object := .object

/-- Reads over a value. -/
def skipping : Reading Unit Unit where
  key := Quoted.skip
  text := Quoted.skip
  number _ := some ()
  truth _ := ()
  nothing := ()
  list _ := ()
  object _ := ()

/-- The number of lists and objects that may be nested in a document. -/
def nestingLimit : Nat := 127

/-- Reads one document with a given scanner; only blanks may follow it. -/
def document {α : Type} (scan : (characters : List Char) → Scan α characters) (text : String) :
    Except Fault α := do
  let parsed ← scan text.toList
  if (skipSpace parsed.rest).isEmpty then
    return parsed.value
  else
    throw .malformed

/-- Reads a text as one JSON value. -/
def parse (text : String) : Except Fault Json :=
  document (complete.value (some nestingLimit)) text

end RealmDesk.Json
