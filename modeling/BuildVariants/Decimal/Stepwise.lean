import BuildVariants.Decimal.Rounding

/-!
# Bringing a decimal to double precision in steps

A decimal number can be rounded once, to the nearest number in double
precision. It can also be brought there in steps, which is faster and less
exact: its first digits, as many as make a number of 64 bits, are rounded to
double precision, and the result is multiplied or divided by a power of ten,
itself rounded. Every step rounds, so the number that comes out may lie next to
the nearest one. JSON numbers are read in steps.
-/

namespace BuildVariants.Decimal

/-! ## Gathering the digits -/

/-- Append digits to a number for as long as it stays below the end of the
64-bit numbers: the number, and how many digits it took. -/
def gather (n : Nat) : List Char → Nat × Nat
  | [] => (n, 0)
  | c :: cs =>
    let next := 10 * n + Text.Numeral.digitValue c
    if next < UInt64.size then
      let (result, taken) := gather next cs
      (result, taken + 1)
    else (n, 0)

/-- The significand of a number with the given digits before and after its
point, and the power of ten that goes with it. A digit before the point that
was not taken counts as a zero; one after the point is dropped. -/
def gatherParts (whole places : List Char) : Nat × Int :=
  let (first, before) := gather 0 whole
  let (significand, after) := gather first places
  (significand, (whole.length : Int) - before - after)

/-! ## Rounded arithmetic -/

/-- The product of two magnitudes, rounded. -/
def Double.mul : Double → Double → Double
  | .finite s e, .finite t f =>
    let (num, den) := scale (s * t) 1 (-(e + f))
    nearest num den
  | _, _ => .infinite

/-- The quotient of two magnitudes, rounded; the second one is not zero. -/
def Double.div : Double → Double → Double
  | .finite s e, .finite t f =>
    let (num, den) := scale s t (f - e)
    nearest num den
  | _, _ => .infinite

/-- Whether a magnitude is zero. -/
def Double.isZero : Double → Bool
  | .finite significand _ => significand = 0
  | .infinite => false

/-- The greatest power of ten in double precision. -/
def maxPower : Nat := 308

/-- A power of ten in double precision. -/
def powerOfTen (exponent : Nat) : Double := nearest (Nat.pow 10 exponent) 1

/-- The number `significand · 10 ^ exponent`, in steps. A negative exponent
below the range of the powers is worked off by the greatest of them; since the
significand has 64 bits, nothing is left after two such divisions. -/
def toDoubleInSteps (significand : Nat) (exponent : Int) : Double :=
  let start := nearest significand 1
  if 0 ≤ exponent then
    if exponent ≤ maxPower then start.mul (powerOfTen exponent.toNat)
    else if start.isZero then start
    else .infinite
  else
    let divisions := (exponent.natAbs - 1) / maxPower
    let scaled := (List.replicate (min divisions 2) (powerOfTen maxPower)).foldl Double.div start
    scaled.div (powerOfTen (exponent.natAbs - maxPower * divisions))

end BuildVariants.Decimal
