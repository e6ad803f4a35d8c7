/-!
# Blank characters

Names, tokens and numbers are read with the white space around them taken
off. White space is what Unicode says it is: the twenty-five characters below,
among them the no-break space and the ideographic space, but not the
zero-width space nor the byte order mark.
-/

namespace BuildVariants.Text

/-- Whether a character is white space. -/
def isBlank (c : Char) : Bool :=
  let n := c.toNat
  (0x09 ≤ n && n ≤ 0x0D) || n == 0x20 || n == 0x85 || n == 0xA0 || n == 0x1680
    || (0x2000 ≤ n && n ≤ 0x200A) || n == 0x2028 || n == 0x2029 || n == 0x202F
    || n == 0x205F || n == 0x3000

/-- The characters without the white space before the first and after the
last other one. -/
def trimChars (cs : List Char) : List Char :=
  ((cs.dropWhile isBlank).reverse.dropWhile isBlank).reverse

/-- A text without the white space around it. -/
def trim (text : String) : String := .ofList (trimChars text.toList)

@[simp] theorem toList_trim (text : String) : (trim text).toList = trimChars text.toList :=
  String.toList_ofList

/-- Nothing is taken off where no white space starts or ends the characters. -/
theorem trimChars_eq_self {cs : List Char} (hhead : ∀ c, cs.head? = some c → isBlank c = false)
    (hlast : ∀ c, cs.getLast? = some c → isBlank c = false) : trimChars cs = cs := by
  have hkeep {xs : List Char} (h : ∀ c, xs.head? = some c → isBlank c = false) :
      xs.dropWhile isBlank = xs := by
    cases xs with
    | nil => rfl
    | cons c rest => rw [List.dropWhile_cons, h c rfl, if_neg Bool.false_ne_true]
  rw [trimChars, hkeep hhead, hkeep fun c hc => hlast c (List.head?_reverse ▸ hc),
    List.reverse_reverse]

/-- What is left starts with no white space and ends with none. -/
theorem not_isBlank_of_ends_trimChars {cs : List Char} {c : Char}
    (h : (trimChars cs).head? = some c ∨ (trimChars cs).getLast? = some c) :
    isBlank c = false := by
  have hkept (xs : List Char) (h : (xs.dropWhile isBlank).head? = some c) : isBlank c = false := by
    have hfirst := List.head?_dropWhile_not isBlank xs
    rw [h] at hfirst
    exact hfirst
  rcases h with hhead | hlast
  · -- only the end was cut off behind the first character that is kept
    obtain ⟨cut, hcut⟩ := List.dropWhile_suffix isBlank (l := (cs.dropWhile isBlank).reverse)
    have hparts : trimChars cs ++ cut.reverse = cs.dropWhile isBlank := by
      rw [trimChars, ← List.reverse_append, hcut, List.reverse_reverse]
    apply hkept cs
    rw [← hparts, List.head?_append, hhead, Option.some_or]
  · rw [trimChars, List.getLast?_reverse] at hlast
    exact hkept _ hlast

/-- White space that is taken off is all taken off at once. -/
theorem trimChars_trimChars (cs : List Char) : trimChars (trimChars cs) = trimChars cs :=
  trimChars_eq_self (fun _ hc => not_isBlank_of_ends_trimChars (.inl hc))
    fun _ hc => not_isBlank_of_ends_trimChars (.inr hc)

theorem trimChars_sublist (cs : List Char) : (trimChars cs).Sublist cs := by
  rw [trimChars, ← List.reverse_sublist, List.reverse_reverse]
  exact (List.dropWhile_sublist isBlank).trans
    (List.reverse_sublist.2 (List.dropWhile_sublist isBlank))

end BuildVariants.Text
