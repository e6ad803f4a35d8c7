import BuildVariants.FieldLimit
import Mathlib.Algebra.Group.Nat.Defs

/-!
# The limit on fields is a power of two

Clearing the lowest set bit of a number that is not a power of two leaves its
highest one alone, so the highest one is what is left in the end
(`toNat_highestBit`). A request of 64 bits with a sign is less than `2 ^ 63`,
so that shifting its highest bit up once loses nothing, and whatever is
requested is rounded up to a power of two (`exists_toNat_round`). Which one it
is, and what follows for several requests, is said by `rounds_up`.

Words wrap around in silence, and a loop by itself need not end soon. That
neither happens here is said through the same computation in checked arithmetic
with a number of rounds to go, which never gives up (`round?_eq`). The rounds are
counted by the places that are empty at the low end of the number, one more after
each of them.
-/

namespace BuildVariants.FieldLimit

theorem toNat_clearLowest {n : UInt64} (h : n ≠ 0) :
    (n &&& (n - 1)).toNat = n.toNat &&& (n.toNat - 1) := by
  have hpos : 1 ≤ n := by
    rw [UInt64.le_iff_toNat_le]
    exact Nat.one_le_iff_ne_zero.2 fun h0 => h (UInt64.toNat_inj.1 h0)
  rw [UInt64.toNat_and, UInt64.toNat_sub_of_le _ _ hpos]
  rfl

theorem toNat_ne_zero {n : UInt64} (h : n ≠ 0) : n.toNat ≠ 0 :=
  fun h0 => h (UInt64.toNat_inj.1 h0)

/-- A number without a lowest bit to clear but its only one is a power of two. -/
theorem clearLowest_eq_zero_iff {n : UInt64} (h : n ≠ 0) :
    n &&& (n - 1) = 0 ↔ n.toNat = 2 ^ n.toNat.log2 := by
  have hzero : n &&& (n - 1) = 0 ↔ n.toNat &&& (n.toNat - 1) = 0 := by
    rw [← toNat_clearLowest h]
    exact UInt64.toNat_inj.symm
  rw [hzero, Nat.and_sub_one_eq_zero_iff_isPowerOfTwo (toNat_ne_zero h)]
  constructor
  · rintro ⟨k, hk⟩
    rw [hk, Nat.log2_two_pow]
  · intro hpow
    exact ⟨_, hpow⟩

/-- **Clearing the lowest bit keeps the highest one**, if there are two. -/
theorem log2_clearLowest {n : UInt64} (h : n ≠ 0) (hmore : n &&& (n - 1) ≠ 0) :
    (n &&& (n - 1)).toNat.log2 = n.toNat.log2 := by
  have hn := toNat_ne_zero h
  have hpow : ¬ n.toNat.isPowerOfTwo := by
    rw [← Nat.and_sub_one_eq_zero_iff_isPowerOfTwo hn, ← toNat_clearLowest h]
    exact toNat_ne_zero hmore
  have hbit : (n &&& (n - 1)).toNat.testBit n.toNat.log2 = true := by
    rw [toNat_clearLowest h]
    exact Nat.and_sub_one_testBit_log2 hn hpow
  refine (Nat.log2_eq_iff (toNat_ne_zero hmore)).2 ⟨Nat.ge_two_pow_of_testBit hbit, ?_⟩
  exact Nat.lt_trans (toNat_clearLowest_lt hmore) Nat.lt_log2_self

/-- **What is left in the end is the highest bit.** -/
theorem toNat_highestBit {n : UInt64} (h : n ≠ 0) :
    (highestBit n).toNat = 2 ^ n.toNat.log2 := by
  induction n using highestBit.induct with
  | case1 n hone =>
    rw [highestBit, if_pos hone]
    exact (clearLowest_eq_zero_iff h).1 hone
  | case2 n hmore ih => rw [highestBit, if_neg hmore, ih hmore, log2_clearLowest h hmore]

/-- The double of the highest bit of a number below `2 ^ 63` is in the range. -/
theorem two_pow_log2_succ_lt {n : UInt64} (h : n ≠ 0) (hbound : n.toNat < 2 ^ 63) :
    2 ^ (n.toNat.log2 + 1) < 2 ^ 64 := by
  have hlog : n.toNat.log2 < 63 := (Nat.log2_lt (toNat_ne_zero h)).2 hbound
  exact Nat.pow_lt_pow_right (by decide) (Nat.succ_lt_succ hlog)

/-- Shifting the highest bit of a number below `2 ^ 63` up once loses nothing. -/
theorem toNat_highestBit_shiftLeft {n : UInt64} (h : n ≠ 0) (hbound : n.toNat < 2 ^ 63) :
    (highestBit n <<< 1).toNat = 2 ^ (n.toNat.log2 + 1) := by
  rw [UInt64.toNat_shiftLeft, toNat_highestBit h]
  show 2 ^ n.toNat.log2 <<< 1 % 2 ^ 64 = _
  rw [Nat.shiftLeft_eq, ← Nat.pow_succ, Nat.mod_eq_of_lt (two_pow_log2_succ_lt h hbound)]

/-- A positive request as an unsigned word is not zero, and its highest bit is not
set. -/
theorem toUInt64_of_pos {requested : Int64} (h : 0 < requested) :
    requested.toUInt64 ≠ 0 ∧ requested.toUInt64.toNat < 2 ^ 63 := by
  have hpos : 0 < requested.toInt := Int64.lt_iff_toInt_lt.1 h
  have hsigned : requested.toInt < 2 ^ 63 := requested.toInt_lt
  have hword : requested.toUInt64.toNat = requested.toInt.toNat :=
    Int64.toNat_toUInt64_of_le (Int64.le_of_lt h)
  refine ⟨fun h0 => ?_, by omega⟩
  have hzero : requested.toInt.toNat = 0 := by rw [← hword, h0, UInt64.toNat_zero]
  omega

/-- **A positive request is rounded up to the next power of two**: to one that
is not less than the request, and less than twice of it. -/
theorem toNat_round_of_pos {requested : Int64} (h : 0 < requested) :
    ∃ k, (round requested).toNat = 2 ^ k
      ∧ requested.toInt.toNat ≤ 2 ^ k ∧ 2 ^ k < 2 * requested.toInt.toNat := by
  have hword : requested.toUInt64.toNat = requested.toInt.toNat :=
    Int64.toNat_toUInt64_of_le (Int64.le_of_lt h)
  obtain ⟨hne, hbound⟩ := toUInt64_of_pos h
  have hlow := Nat.log2_self_le (toNat_ne_zero hne)
  have hhigh := Nat.lt_log2_self (n := requested.toUInt64.toNat)
  rw [round, if_neg (Int64.not_le.2 h), ← hword]
  dsimp only
  split
  · next hone =>
    have heq := (clearLowest_eq_zero_iff hne).1 hone
    refine ⟨_, heq, ?_, ?_⟩ <;> omega
  · next hmore =>
    have hstrict : requested.toUInt64.toNat ≠ 2 ^ requested.toUInt64.toNat.log2 :=
      fun heq => hmore ((clearLowest_eq_zero_iff hne).2 heq)
    refine ⟨_, toNat_highestBit_shiftLeft hne hbound, ?_, ?_⟩ <;> omega

/-- **Every request is rounded to a power of two.** -/
theorem exists_toNat_round (requested : Int64) : ∃ k, (round requested).toNat = 2 ^ k := by
  by_cases h : 0 < requested
  · obtain ⟨k, hk, _, _⟩ := toNat_round_of_pos h
    exact ⟨k, hk⟩
  · refine ⟨9, ?_⟩
    rw [round, if_pos (Int64.not_lt.1 h)]
    rfl

/-! ## Checked arithmetic

The same computation, which gives up where an operation leaves the range of 64 bits
or the loop goes on for too long. -/

/-- One less than a number, if that is not below zero. -/
def predecessor? (n : UInt64) : Option UInt64 := if 1 ≤ n then some (n - 1) else none

/-- A number shifted up by one place, if it keeps all its bits. -/
def double? (n : UInt64) : Option UInt64 := if 2 * n.toNat < 2 ^ 64 then some (n <<< 1) else none

/-- A number with its lowest set bit cleared. -/
def clearLowest? (n : UInt64) : Option UInt64 := (predecessor? n).map (n &&& ·)

/-- The highest bit of a number, if clearing the lowest one leaves it after fewer
rounds than are given. -/
def highestBit? : Nat → UInt64 → Option UInt64
  | 0, _ => none
  | rounds + 1, n =>
    (clearLowest? n).bind fun cleared =>
      if cleared = 0 then some n else highestBit? rounds cleared

/-- **A request rounded up in checked arithmetic**, within a number of rounds. -/
def round? (rounds : Nat) (requested : Int64) : Option UInt64 :=
  if requested ≤ 0 then some default
  else
    let n := requested.toUInt64
    (clearLowest? n).bind fun cleared =>
      if cleared = 0 then some n else (highestBit? rounds n).bind double?

theorem clearLowest?_of_ne_zero {n : UInt64} (h : n ≠ 0) :
    clearLowest? n = some (n &&& (n - 1)) := by
  have hpos : 1 ≤ n := UInt64.le_iff_toNat_le.2 (Nat.one_le_iff_ne_zero.2 (toNat_ne_zero h))
  rw [clearLowest?, predecessor?, if_pos hpos, Option.map_some]

/-- Clearing the lowest bit leaves one more place empty at the low end. -/
theorem two_pow_succ_dvd_and_sub_one {n j : Nat} (h : n ≠ 0) (hdvd : 2 ^ j ∣ n) :
    2 ^ (j + 1) ∣ n &&& (n - 1) := by
  obtain ⟨m, rfl⟩ := hdvd
  have hpos : 0 < 2 ^ j := Nat.two_pow_pos j
  rw [Nat.dvd_iff_mod_eq_zero, Nat.and_mod_two_pow]
  rcases Nat.mod_two_eq_zero_or_one m with heven | hodd
  · rw [Nat.pow_succ, Nat.mul_mod_mul_left, heven, Nat.mul_zero, Nat.zero_and]
  · -- the lowest bit stands at this place, and all places below it are filled one down
    have hhalf : 2 * (m / 2) + 1 = m := by omega
    have hparts : 2 ^ j * m = 2 ^ (j + 1) * (m / 2) + 2 ^ j :=
      calc 2 ^ j * m = 2 ^ j * (2 * (m / 2) + 1) := by rw [hhalf]
        _ = 2 ^ (j + 1) * (m / 2) + 2 ^ j := by
          rw [Nat.mul_add, Nat.mul_one, ← Nat.mul_assoc, ← Nat.pow_succ]
    have hbelow : (2 ^ j * m - 1) % 2 ^ (j + 1) = 2 ^ j - 1 := by
      have hlt : 2 ^ j - 1 < 2 ^ (j + 1) := by
        rw [Nat.pow_succ]
        omega
      rw [hparts, Nat.add_sub_assoc hpos, Nat.mul_add_mod, Nat.mod_eq_of_lt hlt]
    rw [hbelow, Nat.and_two_pow_sub_one_eq_mod,
      Nat.mod_mod_of_dvd _ (Nat.pow_dvd_pow 2 (Nat.le_succ j)), Nat.mul_mod_right]

/-- Enough rounds reach the highest bit. -/
theorem highestBit?_eq {rounds j : Nat} {n : UInt64} (h : n ≠ 0) (hdvd : 2 ^ j ∣ n.toNat)
    (hbound : n.toNat < 2 ^ (j + rounds)) : highestBit? rounds n = some (highestBit n) := by
  induction rounds generalizing n j with
  | zero => exact absurd (Nat.eq_zero_of_dvd_of_lt hdvd hbound) (toNat_ne_zero h)
  | succ rounds ih =>
    rw [highestBit?, clearLowest?_of_ne_zero h, Option.bind_some, highestBit]
    split
    · rfl
    · next hmore =>
      refine ih (j := j + 1) hmore ?_ ?_
      · rw [toNat_clearLowest h]
        exact two_pow_succ_dvd_and_sub_one (toNat_ne_zero h) hdvd
      · rw [Nat.add_right_comm]
        exact Nat.lt_trans (toNat_clearLowest_lt hmore) hbound

/-- The highest bit of a number below `2 ^ 63` can be shifted up. -/
theorem double?_highestBit {n : UInt64} (h : n ≠ 0) (hbound : n.toNat < 2 ^ 63) :
    double? (highestBit n) = some (highestBit n <<< 1) := by
  rw [double?, toNat_highestBit h, ← Nat.pow_succ', if_pos (two_pow_log2_succ_lt h hbound)]

/-- **No operation leaves its range**, and the loop ends after at most 62 rounds. -/
theorem round?_eq (requested : Int64) : round? 63 requested = some (round requested) := by
  unfold round? round
  by_cases h : requested ≤ 0
  · rw [if_pos h, if_pos h]
  · rw [if_neg h, if_neg h]
    dsimp only
    obtain ⟨hne, hbound⟩ := toUInt64_of_pos (Int64.not_le.1 h)
    rw [clearLowest?_of_ne_zero hne, Option.bind_some]
    split
    · rfl
    · rw [highestBit?_eq (j := 0) hne (Nat.one_dvd _) (by simpa using hbound), Option.bind_some,
        double?_highestBit hne hbound]

/-! ## The limit by its value -/

/-- Of two powers of two, one that is less than the double of the other is not greater
than the other. -/
theorem le_of_lt_double {p q : Nat} (hp : p.isPowerOfTwo) (hq : q.isPowerOfTwo)
    (h : p < 2 * q) : p ≤ q := by
  obtain ⟨j, rfl⟩ := hp
  obtain ⟨k, rfl⟩ := hq
  rw [← Nat.pow_succ'] at h
  have hexponents : j < k + 1 := (Nat.pow_lt_pow_iff_right (by decide)).1 h
  exact Nat.pow_le_pow_right (by decide) (Nat.le_of_lt_succ hexponents)

section Positive

variable {requested : Int64} (h : 0 < requested)

include h

/-- A positive request is kept, and less than doubled. -/
theorem bounds_round :
    requested.toInt ≤ (round requested).toNat ∧ (round requested).toNat < 2 * requested.toInt := by
  have hpos : 0 < requested.toInt := Int64.lt_iff_toInt_lt.1 h
  obtain ⟨k, hround, hle, hlt⟩ := toNat_round_of_pos h
  omega

/-- **No power of two that is enough for the request is less than the limit.** -/
theorem toNat_round_le {p : Nat} (hp : p.isPowerOfTwo) (hle : requested.toInt ≤ p) :
    (round requested).toNat ≤ p := by
  obtain ⟨_, hdouble⟩ := bounds_round h
  exact le_of_lt_double (exists_toNat_round requested) hp (by omega)

/-- **The limit is the one power of two** from the request up to below its double. -/
theorem eq_toNat_round_iff {p : Nat} (hp : p.isPowerOfTwo) :
    p = (round requested).toNat ↔ requested.toInt ≤ p ∧ p < 2 * requested.toInt := by
  constructor
  · rintro rfl
    exact bounds_round h
  · rintro ⟨hle, hlt⟩
    obtain ⟨hkept, _⟩ := bounds_round h
    have hsmall : p ≤ (round requested).toNat :=
      le_of_lt_double hp (exists_toNat_round requested) (by omega)
    exact Nat.le_antisymm hsmall (toNat_round_le h hp hle)

end Positive

/-- A power of two is its own limit. -/
theorem toNat_round_of_isPowerOfTwo {requested : Int64} {p : Nat} (hp : p.isPowerOfTwo)
    (heq : requested.toInt = p) : (round requested).toNat = p := by
  have hpos : 0 < p := Nat.pos_of_isPowerOfTwo hp
  have h : 0 < requested := Int64.lt_iff_toInt_lt.2 (by rw [heq]; exact Int.natCast_pos.2 hpos)
  exact ((eq_toNat_round_iff h hp).2 (by omega)).symm

/-- **Requests are rounded up to powers of two.** The limit is computed without leaving
the range of 64 bits and in at most 62 rounds of the loop. It is 512 for a request that
is not positive, and for a positive one the least power of two that is not less than it,
the one that is less than its double. So a power of two is its own limit, greater requests
have limits that are not less, and a limit that is requested is kept. -/
theorem rounds_up (requested : Int64) :
    round? 63 requested = some (round requested)
      ∧ (requested ≤ 0 → (round requested).toNat = 512)
      ∧ (0 < requested →
          (round requested).toNat.isPowerOfTwo ∧ requested.toInt ≤ (round requested).toNat
            ∧ (∀ p : Nat, p.isPowerOfTwo → requested.toInt ≤ p → (round requested).toNat ≤ p)
            ∧ (∀ p : Nat, p.isPowerOfTwo → (p = (round requested).toNat
                ↔ requested.toInt ≤ p ∧ p < 2 * requested.toInt))
            ∧ ∀ other, requested ≤ other → round requested ≤ round other)
      ∧ (∀ p : Nat, p.isPowerOfTwo → requested.toInt = p → (round requested).toNat = p)
      ∧ ∀ again : Int64, again.toInt = (round requested).toNat →
          round again = round requested := by
  have hpower := exists_toNat_round requested
  refine ⟨round?_eq requested, fun h => ?_, fun h => ?_,
    fun p hp heq => toNat_round_of_isPowerOfTwo hp heq, fun again hagain => ?_⟩
  · rw [round, if_pos h]
    rfl
  · refine ⟨hpower, (bounds_round h).1, fun p hp hle => toNat_round_le h hp hle,
      fun p hp => eq_toNat_round_iff h hp, fun other hother => ?_⟩
    have hkept := (bounds_round (Int64.lt_of_lt_of_le h hother)).1
    rw [UInt64.le_iff_toNat_le]
    exact toNat_round_le h (exists_toNat_round other)
      (Int.le_trans (Int64.le_iff_toInt_le.1 hother) hkept)
  · exact UInt64.toNat_inj.1 (toNat_round_of_isPowerOfTwo hpower hagain)

/-- The greatest request has a limit that is no request any more, one above a power of
two has the next one, and this is kept. -/
theorem rounds_up_greatest :
    (round Int64.maxValue).toNat = 2 ^ 63
      ∧ round? 63 Int64.maxValue = some (round Int64.maxValue)
      ∧ (round (2 ^ 61 + 1)).toNat = 2 ^ 62 ∧ round (2 ^ 62) = round (2 ^ 61 + 1)
      ∧ (round (-1)).toNat = 512 := by
  obtain ⟨hchecked, _, hgreatest, _⟩ := rounds_up Int64.maxValue
  obtain ⟨_, _, habove, _, hagain⟩ := rounds_up (2 ^ 61 + 1)
  obtain ⟨_, hnegative, _⟩ := rounds_up (-1)
  obtain ⟨_, _, _, honly, _⟩ := hgreatest (by decide)
  obtain ⟨_, _, _, honly', _⟩ := habove (by decide +kernel)
  have hnext : (round (2 ^ 61 + 1)).toNat = 2 ^ 62 :=
    ((honly' (2 ^ 62) ⟨62, rfl⟩).2 (by decide +kernel)).symm
  exact ⟨((honly (2 ^ 63) ⟨63, rfl⟩).2 (by decide)).symm, hchecked, hnext,
    hagain (2 ^ 62) (by rw [hnext]; decide +kernel), hnegative (by decide)⟩

end BuildVariants.FieldLimit
