import BuildVariants.Proofs.Domain.Spelling
import BuildVariants.Proofs.Text.Pieces
import Mathlib.Data.List.Induction
import Mathlib.Data.Nat.Digits.Defs

/-!
# Integers in their bounds

Which texts an integer variant accepts, and as what. A numeral is said by its form,
one or more of the ten digits behind at most one sign, and what it denotes by the
value of its digits, of any number of them (`Text.Numeral.Spells`). It may have white
space around it. Nothing else is an integer, and a numeral is one only if what it
denotes fits in 64 bits and keeps within the bounds (`Domain.Denotes`).

What is denoted is an integer without limits. So `validate_integer` says that no
numeral is taken for another number: one that denotes too much is refused, however
many digits it has, and the text is reported as it was supplied.
-/

namespace BuildVariants

/-! ## Numerals -/

namespace Text.Numeral

/-- The number that digits denote, the most significant first. -/
def number (digits : List Char) : Nat :=
  Nat.ofDigits 10 (digits.reverse.map fun c => c.toNat - '0'.toNat)

/-- One or more characters, each of them one of the ten digits. -/
def IsNumber (digits : List Char) : Prop := digits ≠ [] ∧ ∀ c ∈ digits, c.isDigit = true

/-- **A text spells an integer**: it is a number, and at most one sign stands before
it. -/
inductive Spells : List Char → Int → Prop
  | plain {digits : List Char} : IsNumber digits → Spells digits (number digits)
  | plus {digits : List Char} : IsNumber digits → Spells ('+' :: digits) (number digits)
  | minus {digits : List Char} : IsNumber digits → Spells ('-' :: digits) (-number digits)

theorem isDigit_eq (c : Char) : isDigit c = c.isDigit := by
  rw [isDigit, Char.isDigit, Bool.eq_iff_iff]
  simp only [Bool.and_eq_true, decide_eq_true_eq, ge_iff_le, UInt32.le_iff_toNat_le]
  rfl

/-- The value that is summed up digit by digit is the number that the digits denote.
-/
theorem value_eq_number (digits : List Char) : value digits = number digits := by
  induction digits using List.reverseRecOn with
  | nil => rfl
  | append_singleton rest c ih =>
    rw [value_append_singleton, ih, number, number, List.reverse_append, List.reverse_singleton,
      List.singleton_append, List.map_cons, Nat.ofDigits_cons, Nat.add_comm]
    rfl

/-- A natural number is read from one or more digits, and from nothing else. -/
theorem readNat?_eq_some_iff {digits : List Char} {n : Nat} :
    readNat? digits = some n ↔ IsNumber digits ∧ number digits = n := by
  rw [readNat?, Option.ite_none_right_eq_some, Option.some.injEq, value_eq_number,
    List.all_eq_true]
  simp only [isDigit_eq, IsNumber]

/-- A number does not start with a sign. -/
theorem readInt?_of_isNumber {digits : List Char} (h : IsNumber digits) :
    readInt? digits = some (number digits : Int) := by
  have hread : readNat? digits = some (number digits) := readNat?_eq_some_iff.2 ⟨h, rfl⟩
  have hdigit := h.2
  unfold readInt?
  split
  · exact absurd (hdigit '-' List.mem_cons_self) (by decide)
  · exact absurd (hdigit '+' List.mem_cons_self) (by decide)
  · rw [hread, Option.map_some]

/-- **What is read is what is spelled.** -/
theorem readInt?_eq_some_iff {text : List Char} {i : Int} :
    readInt? text = some i ↔ Spells text i := by
  constructor
  · intro h
    unfold readInt? at h
    split at h
    all_goals
      obtain ⟨n, hread, rfl⟩ := Option.map_eq_some_iff.1 h
      obtain ⟨hnumber, rfl⟩ := readNat?_eq_some_iff.1 hread
    · exact .minus hnumber
    · exact .plus hnumber
    · exact .plain hnumber
  · rintro (hnumber | hnumber | hnumber)
    · exact readInt?_of_isNumber hnumber
    · rw [readInt?, readNat?_eq_some_iff.2 ⟨hnumber, rfl⟩, Option.map_some]
    · rw [readInt?, readNat?_eq_some_iff.2 ⟨hnumber, rfl⟩, Option.map_some]

/-- **An integer is a word if it fits in 64 bits**, and then the word is that
integer. -/
theorem toWord?_eq_some_iff {i : Int} {word : Int64} : toWord? i = some word ↔ word.toInt = i := by
  refine ⟨fun h => ?_, fun h => h ▸ toWord?_toInt word⟩
  unfold toWord? at h
  split at h
  · obtain rfl := Option.some.inj h
    exact Int64.toInt_ofIntLE
  · cases h

/-- The words of 64 bits are the integers between the bounds of two's complement. -/
theorem exists_word_iff {i : Int} :
    (∃ word : Int64, word.toInt = i) ↔ -2 ^ 63 ≤ i ∧ i ≤ 2 ^ 63 - 1 := by
  constructor
  · rintro ⟨word, rfl⟩
    exact ⟨word.le_toInt, Int.le_sub_one_of_lt word.toInt_lt⟩
  · rintro ⟨hleast, hmost⟩
    exact ⟨Int64.ofIntLE i hleast hmost, Int64.toInt_ofIntLE⟩

/-- **A word is read from the texts that spell it.** -/
theorem read?_eq_some_iff {text : String} {word : Int64} :
    read? text = some word ↔ Spells text.toList word.toInt := by
  rw [read?, Option.bind_eq_some_iff]
  simp only [readInt?_eq_some_iff, toWord?_eq_some_iff, exists_eq_right']

end Text.Numeral

/-! ## Integer domains -/

namespace Domain

variable {min max : Option Int64} {text : String}

/-- **A text denotes an integer of a domain**: white space aside it spells the
integer, and this fits in 64 bits and keeps within the bounds, which belong to the
domain. -/
structure Denotes (min max : Option Int64) (text : String) (i : Int) : Prop where
  spelled : ∃ numeral, Text.Trims text.toList numeral ∧ Text.Numeral.Spells numeral i
  fits : -2 ^ 63 ≤ i ∧ i ≤ 2 ^ 63 - 1
  least : ∀ bound ∈ min, bound.toInt ≤ i
  most : ∀ bound ∈ max, i ≤ bound.toInt

/-- A word is within bounds, if there are any, as the integer it stands for. -/
theorem within_iff {word : Int64} :
    within min max word = true
      ↔ (∀ bound ∈ min, bound.toInt ≤ word.toInt) ∧ ∀ bound ∈ max, word.toInt ≤ bound.toInt := by
  simp only [within, Bool.and_eq_true, Option.all_eq_true, decide_eq_true_eq,
    Int64.le_iff_toInt_le, Option.mem_def]

/-- A text denotes a word if it is read as it, without the blanks around it, and the
word is within the bounds. -/
theorem denotes_iff {word : Int64} :
    Denotes min max text word.toInt
      ↔ Text.Numeral.read? (Text.trim text) = some word ∧ within min max word = true := by
  rw [Text.Numeral.read?_eq_some_iff, Text.toList_trim, within_iff]
  constructor
  · rintro ⟨⟨numeral, htrims, hspells⟩, _, hleast, hmost⟩
    rw [Text.trimChars_eq_iff.2 htrims]
    exact ⟨hspells, hleast, hmost⟩
  · rintro ⟨hspells, hleast, hmost⟩
    exact ⟨⟨_, Text.trims_trimChars _, hspells⟩, Text.Numeral.exists_word_iff.1 ⟨word, rfl⟩,
      hleast, hmost⟩

/-- **An integer domain accepts what denotes one of its integers.** -/
theorem accept?_integer_eq_some_iff {multiple : Bool} {value : Value} :
    (integer min max).accept? multiple (.text text) = some value
      ↔ ∃ word : Int64, value = .int word ∧ Denotes min max text word.toInt := by
  simp only [denotes_iff, accept?]
  cases Text.Numeral.read? (Text.trim text) with
  | none => simp
  | some word =>
    simp only [Option.ite_none_right_eq_some, Option.some.injEq]
    constructor
    · rintro ⟨hwithin, rfl⟩
      exact ⟨word, rfl, rfl, hwithin⟩
    · rintro ⟨_, rfl, rfl, hwithin⟩
      exact ⟨hwithin, rfl⟩

end Domain

namespace Variant

variable {variant : Variant} {min max : Option Int64}

/-- **An integer variant accepts the integers of its domain**, by any text that
denotes them, and every other text is reported as it is: whatever a text looks like
and however long it is, it is taken for the integer that it denotes or for none. -/
theorem validate_integer (hdomain : variant.domain = .integer min max) (files : Files)
    (text : String) :
    (∀ i : Int, (∃ word : Int64, word.toInt = i
          ∧ variant.validate files (.text text) = .ok (.int word))
        ↔ Domain.Denotes min max text i)
      ∧ ∀ error, variant.validate files (.text text) = .error error
        ↔ (∀ i, ¬ Domain.Denotes min max text i)
          ∧ error = .invalidDomain variant.name text variant.domain.allowed := by
  have hunchecked (validator : Validator) : variant.domain ≠ .checked validator := by
    rw [hdomain]
    nofun
  rw [validate_eq_shape hunchecked]
  simp only [shape_eq_ok_iff, shape_eq_error_iff, hdomain, Domain.accept?_integer_eq_some_iff]
  refine ⟨fun i => ⟨?_, fun hdenotes => ?_⟩, fun error => and_congr_left' ?_⟩
  · rintro ⟨word, rfl, _, heq, hdenotes⟩
    obtain rfl := Value.int.inj heq
    exact hdenotes
  · obtain ⟨word, rfl⟩ := Text.Numeral.exists_word_iff.2 hdenotes.fits
    exact ⟨word, rfl, word, rfl, hdenotes⟩
  · simp only [Option.eq_none_iff_forall_ne_some, ne_eq, Domain.accept?_integer_eq_some_iff]
    constructor
    · intro h i hdenotes
      obtain ⟨word, rfl⟩ := Text.Numeral.exists_word_iff.2 hdenotes.fits
      exact h (.int word) ⟨word, rfl, hdenotes⟩
    · rintro h _ ⟨word, _, hdenotes⟩
      exact h word.toInt hdenotes

/-- An integer with a lower bound below zero. -/
def offset : Variant := ⟨"offset", .integer (some (-5)) none, .int 0, false, "Offset."⟩

/-- The greatest word is denoted with a sign, zeros and white space around it. A number
that would wrap around to -1, which is within the bounds, is refused and reported. -/
theorem integer_offset :
    let files : Files := .ofList []
    Domain.Denotes (some (-5)) none "\u00a0+0009223372036854775807 " (2 ^ 63 - 1)
      ∧ (∀ i, ¬ Domain.Denotes (some (-5)) none "18446744073709551615" i)
      ∧ offset.validate files (.text "18446744073709551615")
        = .error (.invalidDomain "offset" "18446744073709551615" ["-5..="]) := by
  intro files
  have hdomain : offset.domain = .integer (some (-5)) none := rfl
  obtain ⟨hgreatest, _⟩ := validate_integer hdomain files "\u00a0+0009223372036854775807 "
  have haccepted : offset.validate files (.text "\u00a0+0009223372036854775807 ")
      = .ok (.int Int64.maxValue) := by decide +kernel
  obtain ⟨_, hrefused⟩ := validate_integer hdomain files "18446744073709551615"
  have herror : offset.validate files (.text "18446744073709551615")
      = .error (.invalidDomain "offset" "18446744073709551615" ["-5..="]) := by decide +kernel
  exact ⟨(hgreatest (2 ^ 63 - 1)).1 ⟨Int64.maxValue, by decide, haccepted⟩,
    ((hrefused _).1 herror).1, herror⟩

end Variant

end BuildVariants
