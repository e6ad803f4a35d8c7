import Mathlib.Data.List.DropRight
import Mathlib.Tactic.SplitIfs
import BuildVariants.Json.Parser
import BuildVariants.Json.Printer

/-!
# Texts and numbers in JSON

What the printer writes for a text or an integer is read back, whatever stands
behind it. A quoted text ends with its quote (`text?_flatMap_escapeChar`). A
number has no end of its own and takes in the digits, the point and the exponent
that follow, so what stands behind it must not begin with one of them
(`EndsNumber`, `number?_digits`).

Integers are read exactly from the least signed to the greatest unsigned
integer of 64 bits (`Fits`); beyond them the reader falls back to floating
point.
-/

namespace BuildVariants.Json

open Text.Numeral

/-! ## Blanks -/

/-- A blank between two parts of a text. -/
def IsBlank (c : Char) : Prop := c = ' ' ∨ c = '\n' ∨ c = '\r' ∨ c = '\t'

instance : DecidablePred IsBlank := fun _ => inferInstanceAs (Decidable (_ ∨ _))

/-- Blanks in front of a text are skipped, however many. -/
theorem skipBlanks_append {blanks : List Char} (h : ∀ c ∈ blanks, IsBlank c) (rest : List Char) :
    skipBlanks (blanks ++ rest) = skipBlanks rest :=
  List.dropWhile_append_of_pos fun c hc => decide_eq_true (h c hc)

/-- A character that is not blank stops the skipping. -/
theorem skipBlanks_cons {c : Char} (h : ¬ IsBlank c) (rest : List Char) :
    skipBlanks (c :: rest) = c :: rest :=
  List.dropWhile_cons_of_neg fun hc => h (of_decide_eq_true hc)

theorem skipBlanks_skipBlanks (cs : List Char) : skipBlanks (skipBlanks cs) = skipBlanks cs :=
  List.dropWhile_idempotent _ cs

/-! ## Texts -/

/-- A hexadecimal digit is read as the number it was written for. -/
theorem hexValue?_hexDigit {n : Nat} (h : n < 16) : hexValue? (hexDigit n) = some n := by
  have hall : ∀ n < 16, hexValue? (hexDigit n) = some n := by decide
  exact hall n h

/-- The digits of a control character give the character. -/
theorem escape?_control {c : Char} (h : c.toNat < 0x20) (rest : List Char) :
    escape? ('u' :: '0' :: '0' :: hexDigit (c.toNat / 16) :: hexDigit (c.toNat % 16) :: rest)
      = some (c, rest) := by
  have hzero : hexValue? '0' = some 0 := by decide
  have hvalue : ((0 * 16 + 0) * 16 + c.toNat / 16) * 16 + c.toNat % 16 = c.toNat := by omega
  rw [escape?, hexFour?, hzero, hexValue?_hexDigit (by omega), hexValue?_hexDigit (by omega)]
  simp only [Option.bind_eq_bind, Option.bind_some, hvalue]
  rw [if_neg (by omega), if_neg (by omega), Char.ofNat_toNat]

/-- **An escaped character is read as the character.** -/
theorem textBody?_escapeChar (c : Char) (fuel : Nat) (soFar rest : List Char) :
    textBody? (fuel + 1) soFar (escapeChar c ++ rest) = textBody? fuel (c :: soFar) rest := by
  unfold escapeChar
  split_ifs with hquote hnewline hreturn htab hback hfeed hcontrol
  · obtain rfl | rfl := hquote <;> rfl
  · rw [hnewline]; rfl
  · rw [hreturn]; rfl
  · rw [htab]; rfl
  · rw [hback]; rfl
  · rw [hfeed]; rfl
  · show (escape? ('u' :: '0' :: '0' :: hexDigit (c.toNat / 16) :: hexDigit (c.toNat % 16)
      :: rest)).bind (fun read => textBody? fuel (read.1 :: soFar) read.2) = _
    rw [escape?_control hcontrol]
    rfl
  · rw [List.singleton_append, textBody?]
    · rw [if_neg hcontrol]
    · exact fun heq => hquote (.inl heq)
    · exact fun heq => hquote (.inr heq)

/-- The body of a string is read back, up to the quotation mark that closes it. -/
theorem textBody?_flatMap_escapeChar {text : List Char} {fuel : Nat} (hfuel : text.length < fuel)
    (soFar rest : List Char) :
    textBody? fuel soFar (text.flatMap escapeChar ++ '"' :: rest)
      = some (.ofList (soFar.reverse ++ text), rest) := by
  induction text generalizing fuel soFar with
  | nil =>
    obtain ⟨fuel, rfl⟩ := Nat.exists_eq_add_one_of_ne_zero (Nat.ne_zero_of_lt hfuel)
    rw [List.append_nil]
    rfl
  | cons c text ih =>
    obtain ⟨fuel, rfl⟩ := Nat.exists_eq_add_one_of_ne_zero (Nat.ne_zero_of_lt hfuel)
    rw [List.flatMap_cons, List.append_assoc, textBody?_escapeChar,
      ih (Nat.lt_of_succ_lt_succ hfuel), List.reverse_cons, List.append_assoc]
    rfl

/-- Escaping shortens no text, so the length of what is written bounds what is read.
-/
theorem length_le_length_flatMap_escapeChar (text : List Char) :
    text.length ≤ (text.flatMap escapeChar).length := by
  induction text with
  | nil => exact Nat.le_refl _
  | cons c text ih =>
    have hchar : 0 < (escapeChar c).length := by
      unfold escapeChar
      split_ifs <;> simp
    rw [List.flatMap_cons, List.length_append, List.length_cons]
    omega

/-- **A quoted text is read back**, whatever stands behind its quote. -/
theorem text?_flatMap_escapeChar (text rest : List Char) :
    text? (text.flatMap escapeChar ++ '"' :: rest) = some (.ofList text, rest) := by
  have hlength := length_le_length_flatMap_escapeChar text
  refine textBody?_flatMap_escapeChar ?_ [] rest
  rw [List.length_append, List.length_cons]
  omega

/-! ## Numbers -/

/-- A character that would be taken into a number in front of it. -/
def ContinuesNumber (c : Char) : Prop := isDigit c ∨ c = '.' ∨ c = 'e' ∨ c = 'E'

instance : DecidablePred ContinuesNumber := fun _ => inferInstanceAs (Decidable (_ ∨ _))

/-- What may stand behind a number. -/
def EndsNumber (rest : List Char) : Prop := ∀ c ∈ rest.head?, ¬ ContinuesNumber c

/-- Blanks end a number. -/
theorem endsNumber_of_isBlank {blanks : List Char} (h : ∀ c ∈ blanks, IsBlank c) :
    EndsNumber blanks := by
  intro c hc
  rcases h c (List.mem_of_mem_head? hc) with rfl | rfl | rfl | rfl <;> decide

/-- The integers that are read as integers: those of 64 bits, signed or
unsigned. -/
def Fits (i : Int) : Prop := Int64.minValue.toInt ≤ i ∧ i < UInt64.size

theorem fits_toInt (n : Int64) : Fits n.toInt :=
  ⟨Int64.le_iff_toInt_le.1 (Int64.minValue_le n), by
    have hle : n.toInt ≤ Int64.maxValue.toInt := Int64.le_iff_toInt_le.1 (Int64.le_maxValue n)
    have hmax : Int64.maxValue.toInt < UInt64.size := by decide
    omega⟩

/-- The digits of a number are taken as far as they go. -/
theorem takeDigits_digits (n : Nat) {rest : List Char} (h : EndsNumber rest) :
    takeDigits (digits n ++ rest) = (digits n, rest) := by
  have hdigits : ∀ c ∈ digits n, isDigit c = true := fun _ => isDigit_of_mem_digits
  have hrest : ∀ c ∈ rest.head?, ¬ isDigit c = true := fun c hc hdigit => h c hc (.inl hdigit)
  rw [takeDigits, List.takeWhile_append_of_pos hdigits, List.dropWhile_append_of_pos hdigits]
  cases rest with
  | nil => rw [List.takeWhile_nil, List.dropWhile_nil, List.append_nil]
  | cons c rest =>
    rw [List.takeWhile_cons_of_neg (hrest c rfl), List.dropWhile_cons_of_neg (hrest c rfl),
      List.append_nil]

/-- Only zero is written with a leading zero. -/
theorem eq_zero_of_head?_digits {n : Nat} (h : (digits n).head? = some '0') : n = 0 := by
  induction n using digits.induct with
  | case1 n hlt =>
    rw [digits, if_pos hlt, List.head?_singleton, Option.some.injEq] at h
    have hcode : 48 + n % 10 = '0'.toNat := h ▸ (toNat_digit n).symm
    have hzero : '0'.toNat = 48 := rfl
    omega
  | case2 n hge ih =>
    rw [digits, if_neg hge, List.head?_append, Option.or_of_isSome
      (List.isSome_head?.2 (digits_ne_nil _))] at h
    have := ih h
    omega

/-- Where a number ends there is no fraction. -/
theorem fraction?_of_endsNumber {rest : List Char} (h : EndsNumber rest) :
    fraction? rest = some (none, rest) := by
  unfold fraction?
  split
  · exact absurd (.inr (.inl rfl)) (h '.' rfl)
  · rfl

theorem exponent?_of_endsNumber {rest : List Char} (h : EndsNumber rest) :
    exponent? rest = some (none, rest) := by
  cases rest with
  | nil => rfl
  | cons c rest => exact if_neg fun hc => h c rfl (.inr (.inr hc))

/-- **The digits of an integer are read as the integer**, which is negative only
if it is not zero. -/
theorem number?_digits (negative : Bool) {n : Nat} (hzero : negative = true → 0 < n)
    (hfits : Fits (if negative then -(n : Int) else n)) {rest : List Char}
    (hrest : EndsNumber rest) :
    number? negative (digits n ++ rest)
      = some (.int (if negative then -(n : Int) else n), rest) := by
  have hwhole : ¬ (digits n = [] ∨ ((digits n).head? = some '0' ∧ 1 < (digits n).length)) := by
    rintro (hnil | ⟨hhead, hlong⟩)
    · exact digits_ne_nil n hnil
    · rw [eq_zero_of_head?_digits hhead, digits, if_pos (by decide)] at hlong
      exact absurd hlong (by decide)
  unfold number?
  simp only [takeDigits_digits n hrest, if_neg hwhole, fraction?_of_endsNumber hrest,
    exponent?_of_endsNumber hrest, Option.bind_eq_bind, Option.bind_some, value_digits]
  cases negative with
  | false =>
    have hlt : (n : Int) < UInt64.size := hfits.2
    exact if_pos ⟨rfl, Bool.false_ne_true, by omega⟩
  | true =>
    have hle : Int64.minValue.toInt ≤ -(n : Int) := hfits.1
    have hmax : (0 : Int) ≤ Int64.maxValue.toInt := by decide
    have hword : (toWord? (-(n : Int))).isSome := by
      rw [toWord?, dif_pos ⟨hle, by omega⟩]
      rfl
    rw [if_neg fun h => h.2.1 rfl]
    exact if_pos ⟨rfl, rfl, hzero rfl, hword⟩

end BuildVariants.Json
