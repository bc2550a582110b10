import PipeGraph.Json.Value

/-!
# The numbers that numerals denote

A numeral without point and exponent denotes an integer as long as that has 64
bits, signed or unsigned.  Every other numeral denotes a double.  Its digits
are gathered into a significand of at most 64 bits; the significand is rounded
to a double and then scaled by one power of ten, or by several steps where the
power is below the least one that a double can hold.
-/

namespace PipeGraph

namespace Json

namespace Numeral

/-- The greatest significand. -/
def significandLimit : Nat := UInt64.size - 1

/-- The greatest power of ten by which a double is scaled in one step. -/
def powerLimit : Nat := 308

/-- Append decimal digits to a significand for as long as it stays within its
limit, and return the digits that are left over. -/
def gather : Nat → List Nat → Nat × List Nat
  | significand, [] => (significand, [])
  | significand, digit :: rest =>
      if significand * 10 + digit ≤ significandLimit then
        gather (significand * 10 + digit) rest
      else (significand, digit :: rest)

/-- The double nearest to a power of ten. -/
def power (exponent : Nat) : Float := Float.ofScientific 1 false exponent

/-- Scale a double down by a power of ten. -/
def scaleDown (number : Float) (exponent : Nat) : Float :=
  if exponent ≤ powerLimit then number / power exponent
  else if number == 0 then number
  else scaleDown (number / power powerLimit) (exponent - powerLimit)
termination_by exponent
decreasing_by simp only [powerLimit] at *; omega

/-- Scale a double up by a power of ten, unless the result is too large. -/
def scaleUp? (number : Float) (exponent : Nat) : Option Float :=
  if exponent ≤ powerLimit then
    let scaled := number * power exponent
    if scaled.isInf then none else some scaled
  else if number == 0 then some number
  else none

/-- Scale a double by a power of ten. -/
def scale? (number : Float) : Int → Option Float
  | .ofNat exponent => scaleUp? number exponent
  | .negSucc exponent => some (scaleDown number (exponent + 1))

/-- The number written by decimal digits. -/
def ofDigits (digits : List Nat) : Nat :=
  digits.foldl (fun number digit => number * 10 + digit) 0

/-- The written exponent, zero when there is none. -/
def exponentValue : Option (Bool × List Nat) → Int
  | none => 0
  | some (true, digits) => -(ofDigits digits : Int)
  | some (false, digits) => ofDigits digits

/-- A significand as a double. -/
def toDouble (significand : Nat) : Float :=
  (UInt64.ofNat significand).toFloat

/-- The double that a numeral denotes, unless it is too large.  A digit of the
whole part that does not fit the significand counts as a power of ten; a digit
of the fraction that does not fit is dropped. -/
def double? (numeral : Numeral) : Option Float := do
  let (whole, wholeLeft) := gather 0 numeral.whole
  let (significand, fractionLeft) := gather whole numeral.fraction
  let places := numeral.fraction.length - fractionLeft.length
  let exponent : Int :=
    (wholeLeft.length : Int) - (places : Int) + exponentValue numeral.exponent
  let magnitude ← scale? (toDouble significand) exponent
  return if numeral.negative then -magnitude else magnitude

/-- The integer that a numeral denotes, when it is written as one and has 64
bits.  Negative zero is not an integer. -/
def integer? (numeral : Numeral) : Option Int :=
  if numeral.fraction.isEmpty && numeral.exponent.isNone then
    let magnitude := ofDigits numeral.whole
    if numeral.negative then
      if 0 < magnitude ∧ magnitude ≤ UInt64.size / 2 then
        some (-(magnitude : Int))
      else none
    else if magnitude ≤ significandLimit then some magnitude
    else none
  else none

/-- The value that a numeral denotes, unless it is too large. -/
def value? (numeral : Numeral) : Option Value :=
  match numeral.integer? with
  | some integer => some (.int integer)
  | none => (numeral.double?).map fun double => .double double.toBits

end Numeral

end Json

end PipeGraph
