/-!
# Double-precision numbers

A double is kept by its 64 bits. Two doubles are the same number when their bits agree after the
negative zero is read as zero. The written form has the fewest decimal digits that read back to
the same double, the nearest such decimal where there are several, and the even one of two equally
near.
-/

namespace RealmDesk

/-- A finite double-precision number, by its bits. -/
structure Double where
  /-- Sign, eleven exponent bits and fifty-two fraction bits. -/
  bits : UInt64
deriving DecidableEq, Inhabited

namespace Double

/-- The positive zero. -/
def zero : Double := ⟨0⟩

/-- The negative zero. -/
def negativeZero : Double := ⟨0x8000000000000000⟩

/-- The double with the negative zero read as zero. -/
def unsignedZero (number : Double) : Double :=
  if number = negativeZero then zero else number

@[simp] theorem unsignedZero_unsignedZero (number : Double) :
    number.unsignedZero.unsignedZero = number.unsignedZero := by
  unfold unsignedZero
  split <;> rfl

/-- Whether the sign bit is set. -/
def isNegative (number : Double) : Bool :=
  number.bits >>> 63 == 1

/-- A number given exactly as `significand * 2 ^ exponent`. -/
structure Binary where
  /-- The whole significand, the hidden bit included. -/
  significand : Nat
  /-- The power of two. -/
  exponent : Int
  /-- Whether the next smaller double is only half a step away. -/
  narrowBelow : Bool

/-- The exact magnitude of a double. -/
def magnitude (number : Double) : Binary :=
  let fraction := (number.bits &&& 0x000FFFFFFFFFFFFF).toNat
  let biased := ((number.bits >>> 52) &&& 0x7FF).toNat
  if biased = 0 then
    ⟨fraction, -1074, false⟩
  else
    ⟨fraction + 0x10000000000000, biased - 1075, fraction = 0 && 1 < biased⟩

/-- A number given as `digits * 10 ^ exponent`. -/
structure Decimal where
  /-- The digits, read as one number. -/
  digits : Nat
  /-- The power of ten of the last digit. -/
  exponent : Int
deriving DecidableEq

/-- The number of decimal digits of a positive number. -/
private def digitCount (number : Nat) : Nat :=
  (Nat.toDigits 10 number).length

/-- The power of ten of the first digit of a positive number `numerator / denominator` above
`10 ^ -340`. -/
private def leadingExponent (numerator denominator : Nat) : Int :=
  (digitCount (numerator * Nat.pow 10 340 / denominator) : Int) - 341

/-- The power of ten as a quotient of natural numbers. -/
private def powerOfTen (exponent : Int) : Nat × Nat :=
  if 0 ≤ exponent then (Nat.pow 10 exponent.toNat, 1) else (1, Nat.pow 10 (-exponent).toNat)

/-- The power of two as a quotient of natural numbers. -/
private def powerOfTwo (exponent : Int) : Nat × Nat :=
  if 0 ≤ exponent then (Nat.pow 2 exponent.toNat, 1) else (1, Nat.pow 2 (-exponent).toNat)

/-- Of the two decimals with `count` digits next to a binary number, the nearer of those that read
back as it, if one does. -/
private def onGrid? (number : Binary) (count : Nat) : Option Decimal :=
  let (twoUp, twoDown) := powerOfTwo number.exponent
  let lead := leadingExponent (number.significand * twoUp) twoDown
  let exponent := lead - ((count : Int) - 1)
  let (tenUp, tenDown) := powerOfTen exponent
  -- In units of a quarter binary step times `tenDown`: the number, its ends, and one grid step.
  let value := 4 * number.significand * twoUp * tenDown
  let low := value - (if number.narrowBelow then 1 else 2) * twoUp * tenDown
  let high := value + 2 * twoUp * tenDown
  let step := 4 * twoDown * tenUp
  let readsBack (digits : Nat) : Bool :=
    let point := digits * step
    if number.significand % 2 = 0 then low ≤ point && point ≤ high
    else low < point && point < high
  let below := value / step
  let above := below + 1
  let toBelow := value - below * step
  let toAbove := above * step - value
  match readsBack below, readsBack above with
  | true, true =>
      if toBelow < toAbove || (toBelow = toAbove && below % 2 = 0) then some ⟨below, exponent⟩
      else some ⟨above, exponent⟩
  | true, false => some ⟨below, exponent⟩
  | false, true => some ⟨above, exponent⟩
  | false, false => none

/-- A decimal without zeros at its end, looked for among the last `fuel` digits. -/
private def withoutTrailingZeros : Nat → Decimal → Decimal
  | 0, decimal => decimal
  | fuel + 1, decimal =>
      if decimal.digits % 10 = 0 then
        withoutTrailingZeros fuel ⟨decimal.digits / 10, decimal.exponent + 1⟩
      else decimal

/-- The shortest decimal that reads back as a positive binary number. -/
def Binary.shortest (number : Binary) : Decimal :=
  match (List.range 17).findSome? fun index => onGrid? number (index + 1) with
  | some decimal => withoutTrailingZeros 17 decimal
  | none => ⟨0, 0⟩

/-- How decimals are laid out. -/
structure Layout where
  /-- The smallest exponent of the first digit that is written without an exponent. -/
  leastPlain : Int
  /-- The largest exponent of the first digit that is written without an exponent. -/
  greatestPlain : Int

/-- Numbers from `0.00001` to below `10 ^ 16` are written without an exponent. -/
def plainLayout : Layout := ⟨-5, 15⟩

/-- The text of a positive decimal: integral values keep `.0` unless an exponent is written. The
exponent has a sign and no zeros in front. -/
def Layout.write (layout : Layout) (decimal : Decimal) : String :=
  let digits := Nat.toDigits 10 decimal.digits
  let lead := decimal.exponent + ((digits.length : Int) - 1)
  if layout.leastPlain ≤ lead && lead ≤ layout.greatestPlain then
    if lead < 0 then
      "0." ++ String.ofList (List.replicate (-lead - 1).toNat '0' ++ digits)
    else
      let whole := (digits ++ List.replicate decimal.exponent.toNat '0').take (lead.toNat + 1)
      let fraction := digits.drop (lead.toNat + 1)
      String.ofList whole ++ "." ++ (if fraction = [] then "0" else String.ofList fraction)
  else
    let sign := if lead < 0 then "-" else "+"
    let point := if digits.length = 1 then "" else "."
    String.ofList (digits.take 1) ++ point ++ String.ofList (digits.drop 1) ++ "e" ++ sign ++
      lead.natAbs.repr

/-- The shortest text that reads back as the double. -/
def text (number : Double) : String :=
  let sign := if number.isNegative then "-" else ""
  let magnitude := number.magnitude
  if magnitude.significand = 0 then sign ++ "0.0"
  else sign ++ plainLayout.write magnitude.shortest

/-- Multiplies by a power of ten in steps of at most `10 ^ 308`, rounding each step; `none` where
the result is too large. -/
private def scaled? (value : Float) (exponent : Int) : Option Float :=
  if exponent.natAbs ≤ 308 then
    let power := Float.ofScientific 1 false exponent.natAbs
    if 0 ≤ exponent then
      let product := value * power
      if product.isInf then none else some product
    else
      some (value / power)
  else if value == 0.0 then some value
  else if 0 ≤ exponent then none
  else scaled? (value / Float.ofScientific 1 false 308) (exponent + 308)
termination_by exponent.natAbs
decreasing_by omega

/-- The double a decimal literal stands for, from its first significant digits and a power of ten;
`none` where it is too large. -/
def ofDecimal? (negative : Bool) (significand : UInt64) (exponent : Int) : Option Double :=
  (scaled? significand.toFloat exponent).map fun value =>
    ⟨(if negative then -value else value).toBits⟩

/-- The double of a whole number below `2 ^ 64`. -/
def ofWhole (negative : Bool) (number : UInt64) : Double :=
  ⟨(if negative then -number.toFloat else number.toFloat).toBits⟩

end Double

end RealmDesk
