import BuildVariants.Text.Numeral

/-!
# Rounding a decimal to double precision

A number with a fraction or an exponent is held in double precision: a
significand of at most 53 bits times a power of two, no power being below
`-1074`. The number held is the nearest one, and of two equally near ones the
one with the even significand. All of this is exact arithmetic on natural
numbers.
-/

namespace BuildVariants.Decimal

/-- A magnitude in double precision. -/
inductive Double
  /-- The number `significand · 2 ^ exponent`. -/
  | finite (significand : Nat) (exponent : Int)
  /-- Larger than every finite one. -/
  | infinite
deriving DecidableEq, Repr

/-- The nearest natural number to `num / den`, the even one of two equally
near ones. -/
def roundEven (num den : Nat) : Nat :=
  let below := num / den
  let rest := num % den
  if 2 * rest < den then below
  else if 2 * rest > den then below + 1
  else if below % 2 = 0 then below else below + 1

/-- The fraction `num / den` divided by `2 ^ exponent`, as a fraction. -/
def scale (num den : Nat) (exponent : Int) : Nat × Nat :=
  if 0 ≤ exponent then (num, den * Nat.pow 2 exponent.toNat)
  else (num * Nat.pow 2 (-exponent).toNat, den)

/-- The least number that does not fit in a significand. -/
def significandEnd : Nat := Nat.pow 2 53

/-- The magnitude nearest to the positive fraction `num / den`. -/
def nearest (num den : Nat) : Double :=
  let size : Int := (num.log2 : Int) - (den.log2 : Int)
  let low := max (size - 53) (-1074)
  let exponent :=
    let (n, d) := scale num den low
    if significandEnd ≤ n / d then low + 1 else low
  let (n, d) := scale num den exponent
  let significand := roundEven n d
  let (significand, exponent) :=
    if significand = significandEnd then (significandEnd / 2, exponent + 1)
    else (significand, exponent)
  if exponent > 971 then .infinite else .finite significand exponent

/-- The magnitude nearest to `digits · 10 ^ exponent`. Numbers far outside the
range of double precision are settled by their order of magnitude. -/
def toDouble (digits : Nat) (exponent : Int) : Double :=
  let order : Int := (Text.Numeral.digits digits).length + exponent
  if digits = 0 ∨ order < -400 then .finite 0 (-1074)
  else if order > 400 then .infinite
  else if 0 ≤ exponent then nearest (digits * Nat.pow 10 exponent.toNat) 1
  else nearest digits (Nat.pow 10 (-exponent).toNat)

end BuildVariants.Decimal
