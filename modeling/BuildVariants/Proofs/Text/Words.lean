import Mathlib.Data.List.TakeWhile

/-!
# Words and the marks between them

Where some characters are marks and words hold none of them, a word in a text ends
at the first mark behind it, or where the text does. A text of words with marks
between them can therefore be read in one way only: this holds of the first word and
what is behind it (`append_inj_of_ends`), and from there of all the words, each with
the mark before it (`partsText_inj`).
-/

namespace BuildVariants.Text

variable {isMark : Char → Bool}

/-- Characters of a kind that no mark is of are no marks. -/
theorem contains_eq_false_of_forall {marks text : List Char} {allowed : Char → Bool}
    (hmarks : (marks.all fun c => !allowed c) = true) (h : ∀ c ∈ text, allowed c = true) :
    ∀ c ∈ text, marks.contains c = false := by
  refine fun c hc => Bool.eq_false_iff.2 fun hmark => ?_
  have hnone := List.all_eq_true.1 hmarks c (List.contains_iff_mem.1 hmark)
  rw [h c hc] at hnone
  cases hnone

/-- The first word of a text is what comes before any mark. -/
theorem takeWhile_append_of_ends {word rest : List Char} (hword : ∀ c ∈ word, isMark c = false)
    (hrest : ∀ c ∈ rest.head?, isMark c = true) :
    (word ++ rest).takeWhile (fun c => !isMark c) = word := by
  rw [List.takeWhile_append_of_pos fun c hc => by simp [hword c hc]]
  cases rest with
  | nil => exact List.append_nil word
  | cons c more =>
    rw [List.takeWhile_cons_of_neg (by simp [hrest c rfl]), List.append_nil]

/-- **Words end at marks**: where two texts start with characters that are not
marks, and marks or ends follow, the texts are equal only part by part. -/
theorem append_inj_of_ends {first second rest rest' : List Char}
    (hfirst : ∀ c ∈ first, isMark c = false) (hsecond : ∀ c ∈ second, isMark c = false)
    (hrest : ∀ c ∈ rest.head?, isMark c = true) (hrest' : ∀ c ∈ rest'.head?, isMark c = true)
    (h : first ++ rest = second ++ rest') : first = second ∧ rest = rest' := by
  have hword : first = second := by
    rw [← takeWhile_append_of_ends hfirst hrest, h, takeWhile_append_of_ends hsecond hrest']
  subst hword
  exact ⟨rfl, List.append_cancel_left h⟩

/-- Words, each of them behind a mark. -/
def partsText (parts : List (Char × String)) : List Char :=
  parts.flatMap fun part => part.1 :: part.2.toList

theorem partsText_append (parts others : List (Char × String)) :
    partsText (parts ++ others) = partsText parts ++ partsText others :=
  List.flatMap_append

/-- Parts start with a mark, if there are any. -/
theorem head_partsText {parts : List (Char × String)} (hmarks : ∀ part ∈ parts, isMark part.1 = true)
    (c : Char) (hc : c ∈ (partsText parts).head?) : isMark c = true := by
  cases parts with
  | nil => cases hc
  | cons part others =>
    obtain rfl : part.1 = c := Option.some.inj hc
    exact hmarks part List.mem_cons_self

/-- The first word is told apart from the parts behind it. -/
theorem word_append_partsText_inj {word word' : String} {parts parts' : List (Char × String)}
    (hword : ∀ c ∈ word.toList, isMark c = false) (hword' : ∀ c ∈ word'.toList, isMark c = false)
    (hmarks : ∀ part ∈ parts, isMark part.1 = true)
    (hmarks' : ∀ part ∈ parts', isMark part.1 = true)
    (h : word.toList ++ partsText parts = word'.toList ++ partsText parts') :
    word = word' ∧ partsText parts = partsText parts' := by
  obtain ⟨hchars, hrest⟩ :=
    append_inj_of_ends hword hword' (head_partsText hmarks) (head_partsText hmarks') h
  exact ⟨String.toList_inj.1 hchars, hrest⟩

/-- **Words behind marks are read in one way.** -/
theorem partsText_inj {parts parts' : List (Char × String)}
    (hmarks : ∀ part ∈ parts, isMark part.1 = true)
    (hmarks' : ∀ part ∈ parts', isMark part.1 = true)
    (hwords : ∀ part ∈ parts, ∀ c ∈ part.2.toList, isMark c = false)
    (hwords' : ∀ part ∈ parts', ∀ c ∈ part.2.toList, isMark c = false)
    (h : partsText parts = partsText parts') : parts = parts' := by
  induction parts generalizing parts' with
  | nil =>
    cases parts' with
    | nil => rfl
    | cons part' others' => cases h
  | cons part others ih =>
    cases parts' with
    | nil => cases h
    | cons part' others' =>
      obtain ⟨_, hmarks⟩ := List.forall_mem_cons.1 hmarks
      obtain ⟨_, hmarks'⟩ := List.forall_mem_cons.1 hmarks'
      obtain ⟨hword, hwords⟩ := List.forall_mem_cons.1 hwords
      obtain ⟨hword', hwords'⟩ := List.forall_mem_cons.1 hwords'
      -- behind the same mark stand a word and the other parts
      obtain ⟨hmark, hbehind⟩ := List.cons.inj h
      obtain ⟨hsame, hothers⟩ := word_append_partsText_inj hword hword' hmarks hmarks' hbehind
      rw [Prod.ext hmark hsame, ih hmarks hmarks' hwords hwords' hothers]

end BuildVariants.Text
