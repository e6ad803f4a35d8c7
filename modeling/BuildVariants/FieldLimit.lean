/-!
# The limit on fields

The number of fields that a region may have is a power of two. A request is
rounded up to one in unsigned 64-bit arithmetic, by the lowest set bits: while
a number is not a power of two its lowest set bit is cleared, which leaves the
highest one, and that is shifted up once.
-/

namespace BuildVariants.FieldLimit

/-- The limit in the place of a request that is not positive. -/
def default : UInt64 := 512

theorem toNat_clearLowest_lt {n : UInt64} (h : n &&& (n - 1) ≠ 0) :
    (n &&& (n - 1)).toNat < n.toNat := by
  have hn : n ≠ 0 := fun h0 => h (by rw [h0, UInt64.zero_and])
  have hpos : 1 ≤ n := by
    rw [UInt64.le_iff_toNat_le]
    exact Nat.one_le_iff_ne_zero.2 fun h0 => hn (UInt64.toNat_inj.1 h0)
  have hle : (n &&& (n - 1)).toNat ≤ (n - 1).toNat := by
    rw [UInt64.toNat_and]
    exact Nat.and_le_right
  rw [UInt64.toNat_sub_of_le _ _ hpos] at hle
  have : 1 ≤ n.toNat := UInt64.le_iff_toNat_le.1 hpos
  have hone : (1 : UInt64).toNat = 1 := rfl
  omega

/-- The highest power of two in a number, found by clearing its lowest set bit
until one is left. Zero has none and stays. -/
def highestBit (n : UInt64) : UInt64 :=
  if n &&& (n - 1) = 0 then n else highestBit (n &&& (n - 1))
termination_by n.toNat
decreasing_by exact toNat_clearLowest_lt ‹_›

/-- A request rounded up to a power of two. -/
def round (requested : Int64) : UInt64 :=
  if requested ≤ 0 then default
  else
    let n := requested.toUInt64
    if n &&& (n - 1) = 0 then n else highestBit n <<< 1

end BuildVariants.FieldLimit
