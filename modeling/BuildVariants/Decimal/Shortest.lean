import BuildVariants.Decimal.Rounding

/-!
# The shortest text of a number in double precision

A number in double precision is shown with the fewest digits that round to it,
and of those the ones nearest to it. The reals that round to a number form an
interval, whose ends belong to it if the significand is even. On the grid of
multiples of `10 ^ g` the two neighbours of the number are tried; the coarsest
grid with a neighbour in the interval gives the digits.

Which of two equally near neighbours is taken, and how the digits are laid out
– with the point among them and zeros around, or in scientific form – is the
choice of the format that shows them, a `Layout`.
-/

namespace BuildVariants.Decimal

/-- The reals that round to a number: those between `low` and `high` units,
the ends included if `closed`, where a unit is `1 / den`. The number itself is
`mid` units. -/
structure Interval where
  low : Nat
  mid : Nat
  high : Nat
  den : Nat
  closed : Bool

/-- The interval of `significand · 2 ^ exponent`. Below a power of two the
numbers lie twice as dense. -/
def Interval.of (significand : Nat) (exponent : Int) : Interval :=
  let unit := Nat.pow 2 (exponent - 2).toNat
  let den := Nat.pow 2 (2 - exponent).toNat
  let below := if significand = significandEnd / 2 ∧ exponent > -1074 then 1 else 2
  { low := (4 * significand - below) * unit
    mid := 4 * significand * unit
    high := (4 * significand + 2) * unit
    den := den
    closed := significand % 2 = 0 }

/-- Whether a number of units lies in the interval. -/
def Interval.holds (interval : Interval) (units : Nat) : Bool :=
  if interval.closed then interval.low ≤ units ∧ units ≤ interval.high
  else interval.low < units ∧ units < interval.high

/-- The interval with all its measures multiplied. -/
def Interval.magnify (interval : Interval) (factor : Nat) : Interval :=
  { interval with
    low := interval.low * factor
    mid := interval.mid * factor
    high := interval.high * factor }

/-- Which of two equally near multiples is taken. -/
inductive Tie
  | toEven
  | up
deriving DecidableEq, Repr

/-- The multiple of `10 ^ grid` in the interval that is nearest to the number,
as the factor of `10 ^ grid`. -/
def Interval.onGrid? (interval : Interval) (tie : Tie) (grid : Int) : Option Nat :=
  let scaled := interval.magnify (Nat.pow 10 (-grid).toNat)
  let step := interval.den * Nat.pow 10 grid.toNat
  let below := scaled.mid / step
  let above := below + 1
  match scaled.holds (below * step), scaled.holds (above * step) with
  | true, true =>
    if 2 * scaled.mid < (below + above) * step then some below
    else if 2 * scaled.mid > (below + above) * step then some above
    else if tie = .toEven ∧ below % 2 = 0 then some below
    else some above
  | true, false => some below
  | false, true => some above
  | false, false => none

/-- The first of `count` grids, from `10 ^ grid` on downwards, that has a
multiple in the interval. -/
def Interval.coarsest (interval : Interval) (tie : Tie) : Nat → Int → Nat × Int
  | 0, grid => (0, grid)
  | count + 1, grid =>
    match interval.onGrid? tie grid with
    | some digits => (digits, grid)
    | none => interval.coarsest tie count (grid - 1)

/-- The fewest digits that round to a positive number, with their exponent of
ten. -/
def shortest (tie : Tie) (significand : Nat) (exponent : Int) : Nat × Int :=
  (Interval.of significand exponent).coarsest tie 660 310

/-! ## Laying out the digits -/

/-- How a number is laid out. `fewest` and `most` say where the point may fall
for the digits to stand around it: the number of digits before it, counted
negative for zeros after it. Outside of these bounds the number is written in
scientific form. -/
structure Layout where
  fewest : Option Int
  most : Option Int
  tie : Tie

/-- Every number is laid out around its point, and of two equally near numbers
the larger one is shown. -/
def Layout.plain : Layout := ⟨none, none, .up⟩

/-- Large and small numbers are written in scientific form, and of two equally
near numbers the one with an even last digit is shown. -/
def Layout.compact : Layout := ⟨some (-4), some 16, .toEven⟩

/-- Whether a number whose point falls at `point` is laid out around it. -/
def Layout.around (layout : Layout) (point : Int) : Bool :=
  layout.fewest.all (· ≤ point) && layout.most.all (point ≤ ·)

/-- An exponent of ten, always with a sign. -/
def signedExponent (exponent : Int) : List Char :=
  (if exponent < 0 then '-' else '+') :: Text.Numeral.digits exponent.natAbs

/-- The digits of `digits · 10 ^ exponent`: around a point that is followed by a
digit, or in scientific form. -/
def Layout.place (layout : Layout) (digits : Nat) (exponent : Int) : List Char :=
  let cs := Text.Numeral.digits digits
  let point : Int := cs.length + exponent
  if layout.around point then
    if 0 ≤ exponent then cs ++ List.replicate exponent.toNat '0' ++ ['.', '0']
    else if 0 < point then cs.take point.toNat ++ '.' :: cs.drop point.toNat
    else '0' :: '.' :: List.replicate (-point).toNat '0' ++ cs
  else
    let fraction := match cs.drop 1 with
      | [] => []
      | rest => '.' :: rest
    cs.take 1 ++ fraction ++ 'e' :: signedExponent (point - 1)

/-- **The text of a number in double precision**: a sign, and the fewest digits
that round to it. -/
def Double.write (layout : Layout) (negative : Bool) (magnitude : Double) : String :=
  let body := match magnitude with
    | .infinite => "inf".toList
    | .finite 0 _ => "0.0".toList
    | .finite significand exponent =>
      let (digits, exponent) := shortest layout.tie significand exponent
      layout.place digits exponent
  .ofList (if negative then '-' :: body else body)

end BuildVariants.Decimal
