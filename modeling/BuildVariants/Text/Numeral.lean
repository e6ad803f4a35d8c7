/-!
# Decimal numerals

Integers are written in decimal with a minus sign where needed, and read back
from an optional sign followed by digits. Reading is exact: any number of
leading zeros is accepted, nothing else is, and a number that does not fit in
64 bits is not read at all, so nothing wraps around.
-/

namespace BuildVariants.Text.Numeral

/-- The digit of a number below ten. -/
def digit (n : Nat) : Char := Char.ofNat (48 + n % 10)

/-- The decimal digits of a number, most significant first, without leading
zeros. -/
def digits (n : Nat) : List Char :=
  if n < 10 then [digit n] else digits (n / 10) ++ [digit n]

/-- Whether a character is one of the ten ASCII digits. -/
def isDigit (c : Char) : Bool := 48 ≤ c.toNat && c.toNat ≤ 57

/-- The number that a digit stands for. -/
def digitValue (c : Char) : Nat := c.toNat - 48

/-- The number that a list of digits denotes. -/
def value (cs : List Char) : Nat := cs.foldl (fun n c => 10 * n + digitValue c) 0

/-- One or more digits, as a number. -/
def readNat? (cs : List Char) : Option Nat :=
  if cs ≠ [] ∧ cs.all isDigit then some (value cs) else none

/-- An optional sign and one or more digits, as an integer. -/
def readInt? : List Char → Option Int
  | '-' :: cs => (readNat? cs).map fun n : Nat => -(n : Int)
  | '+' :: cs => (readNat? cs).map fun n : Nat => (n : Int)
  | cs => (readNat? cs).map fun n : Nat => (n : Int)

/-- The integer as a 64-bit word, if it fits. -/
def toWord? (i : Int) : Option Int64 :=
  if h : Int64.minValue.toInt ≤ i ∧ i ≤ Int64.maxValue.toInt then
    some (Int64.ofIntLE i h.1 h.2)
  else none

/-- The 64-bit integer that a text denotes, if it denotes one. -/
def read? (text : String) : Option Int64 := (readInt? text.toList).bind toWord?

/-- The decimal text of a natural number. -/
def ofNat (n : Nat) : String := .ofList (digits n)

/-- The decimal characters of an integer. -/
def charsOfInt (i : Int) : List Char :=
  if i < 0 then '-' :: digits i.natAbs else digits i.natAbs

/-- The decimal text of an integer. -/
def ofInt (i : Int) : String := .ofList (charsOfInt i)

/-- The decimal text of a 64-bit integer. -/
def write (n : Int64) : String := ofInt n.toInt

/-! ## Writing and reading back -/

/-- The ten digits follow one another in the order of their codes. -/
theorem toNat_digit (n : Nat) : (digit n).toNat = 48 + n % 10 := by
  have h : (48 + n % 10).isValidChar := by
    have := Nat.mod_lt n (show 0 < 10 by decide)
    exact .inl (by omega)
  rw [digit, Char.ofNat, dif_pos h]
  rfl

theorem isDigit_digit (n : Nat) : isDigit (digit n) = true := by
  have := Nat.mod_lt n (show 0 < 10 by decide)
  simp only [isDigit, toNat_digit, Bool.and_eq_true, decide_eq_true_eq]
  omega

/-- A digit stands for the number it was made of. -/
theorem digitValue_digit (n : Nat) : digitValue (digit n) = n % 10 := by
  simp [digitValue, toNat_digit]

/-- Every number has a digit, zero too. -/
theorem digits_ne_nil (n : Nat) : digits n ≠ [] := by
  rw [digits]; split <;> simp

/-- A number is written with digits alone. -/
theorem isDigit_of_mem_digits {n : Nat} {c : Char} (h : c ∈ digits n) : isDigit c = true := by
  induction n using digits.induct with
  | case1 n hlt =>
    rw [digits, if_pos hlt, List.mem_singleton] at h
    exact h ▸ isDigit_digit n
  | case2 n hge ih =>
    rw [digits, if_neg hge, List.mem_append, List.mem_singleton] at h
    exact h.elim ih fun heq => heq ▸ isDigit_digit n

theorem value_append_singleton (cs : List Char) (c : Char) :
    value (cs ++ [c]) = 10 * value cs + digitValue c := by
  simp [value]

/-- **The digits of a number have it for their value.** -/
theorem value_digits (n : Nat) : value (digits n) = n := by
  induction n using digits.induct with
  | case1 n hlt =>
    rw [digits, if_pos hlt]
    simp [value, digitValue_digit]
    omega
  | case2 n hge ih =>
    rw [digits, if_neg hge, value_append_singleton, ih, digitValue_digit]
    omega

theorem readNat?_digits (n : Nat) : readNat? (digits n) = some n := by
  rw [readNat?, if_pos ⟨digits_ne_nil n, List.all_eq_true.2 fun _ => isDigit_of_mem_digits⟩,
    value_digits]

/-- Digits do not start with a sign. -/
theorem readInt?_digits (n : Nat) : readInt? (digits n) = some (n : Int) := by
  have hread := readNat?_digits n
  cases hd : digits n with
  | nil => exact absurd hd (digits_ne_nil n)
  | cons c cs =>
    have hc : isDigit c = true := isDigit_of_mem_digits (hd ▸ List.mem_cons_self)
    rw [hd] at hread
    unfold readInt?
    split
    · next heq => simp only [List.cons.injEq] at heq; rw [heq.1] at hc; exact absurd hc (by decide)
    · next heq => simp only [List.cons.injEq] at heq; rw [heq.1] at hc; exact absurd hc (by decide)
    · rw [hread]; rfl

/-- **An integer's text reads back as the integer.** -/
theorem readInt?_charsOfInt (i : Int) : readInt? (charsOfInt i) = some i := by
  rw [charsOfInt]
  split
  · rw [readInt?, readNat?_digits, Option.map_some, Option.some.injEq]
    omega
  · rw [readInt?_digits, Option.some.injEq]
    omega

theorem toWord?_toInt (n : Int64) : toWord? n.toInt = some n := by
  have h : Int64.minValue.toInt ≤ n.toInt ∧ n.toInt ≤ Int64.maxValue.toInt :=
    ⟨Int64.le_iff_toInt_le.1 (Int64.minValue_le n), Int64.le_iff_toInt_le.1 (Int64.le_maxValue n)⟩
  rw [toWord?, dif_pos h, Option.some.injEq, ← Int64.toInt_inj, Int64.toInt_ofIntLE]

/-- **A word is read back from its numeral.** -/
theorem read?_write (n : Int64) : read? (write n) = some n := by
  rw [read?, write, ofInt, String.toList_ofList, readInt?_charsOfInt, Option.bind_some,
    toWord?_toInt]

/-- No two numbers share their digits. -/
theorem ofNat_inj {m n : Nat} : ofNat m = ofNat n ↔ m = n := by
  refine ⟨fun h => ?_, congrArg ofNat⟩
  have hdigits : digits m = digits n := String.ofList_injective h
  rw [← value_digits m, hdigits, value_digits]

/-- No two 64-bit integers share their text. -/
theorem write_inj {m n : Int64} : write m = write n ↔ m = n := by
  refine ⟨fun h => ?_, congrArg write⟩
  have hread := read?_write m
  rw [h, read?_write] at hread
  exact (Option.some.inj hread).symm

/-! ## The usual decimals -/

/-- A digit is the usual one. -/
theorem digit_eq_digitChar {n : Nat} (h : n < 10) : digit n = Nat.digitChar n := by
  revert n
  decide

/-- The digits of a number are the usual ones. -/
theorem digits_eq_toDigits (n : Nat) : digits n = Nat.toDigits 10 n := by
  induction n using digits.induct with
  | case1 n hlt => rw [digits, if_pos hlt, digit_eq_digitChar hlt, Nat.toDigits_of_lt_base hlt]
  | case2 n hge ih =>
    have hlast : digit n = Nat.digitChar (n % 10) := by
      rw [← digit_eq_digitChar (Nat.mod_lt n (by decide)), digit, digit, Nat.mod_mod]
    rw [digits, if_neg hge, ih, hlast, Nat.toDigits_of_base_le (by decide) (Nat.le_of_not_lt hge)]

/-- The text of a natural number is the usual one. -/
theorem ofNat_eq_toString (n : Nat) : ofNat n = toString n := by
  rw [ofNat, digits_eq_toDigits]
  rfl

/-- The text of an integer is the usual one. -/
theorem ofInt_eq_toString (i : Int) : ofInt i = toString i := by
  cases i with
  | ofNat n =>
    have hsign : ¬ Int.ofNat n < 0 := Int.not_lt.2 (Int.natCast_nonneg n)
    rw [ofInt, charsOfInt, if_neg hsign]
    exact ofNat_eq_toString n
  | negSucc n =>
    rw [ofInt, charsOfInt, if_pos (Int.negSucc_lt_zero n), ← List.singleton_append,
      String.ofList_append]
    exact congrArg ("-" ++ ·) (ofNat_eq_toString (n + 1))

/-- The text of a 64-bit integer is the usual one. -/
theorem write_eq_toString (n : Int64) : write n = toString n.toInt := ofInt_eq_toString _

end BuildVariants.Text.Numeral
