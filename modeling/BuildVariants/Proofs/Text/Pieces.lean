import BuildVariants.Text.Blank
import BuildVariants.Text.Pieces
import Mathlib.Data.List.TakeWhile

/-!
# Pieces and trimmed texts, by where they stand

Cutting a text and taking off the white space around it are functions. Here both
are said by where the result stands in the text: a piece is what stands between two
separators, or a separator and an end (`Between`), and a trimmed text is what stands
between the white space at both ends (`Trims`). The two functions find exactly that
(`mem_pieces_iff`, `trimChars_eq_iff`), so what is stated in terms of the relations
does not lean on how a text is gone through.
-/

namespace BuildVariants.Text

/-! ## Between separators -/

/-- **A piece of a text**: it holds no separator, and one stands right before it
and right behind it, where the text does not begin or end there. -/
def Between (c : Char) (text piece : List Char) : Prop :=
  c ∉ piece ∧ ∃ before after, before ++ piece ++ after = text
    ∧ (∀ x ∈ before.getLast?, x = c) ∧ ∀ x ∈ after.head?, x = c

variable {c : Char} {text piece : List Char}

/-- Behind the first of some pieces the text ends or goes on with a separator. -/
theorem exists_join_cons (c : Char) (piece : List Char) (others : List (List Char)) :
    ∃ after, join c (piece :: others) = piece ++ after ∧ ∀ x ∈ after.head?, x = c := by
  cases others with
  | nil => exact ⟨[], (List.append_nil piece).symm, by simp⟩
  | cons next rest =>
    exact ⟨c :: join c (next :: rest), join_cons c piece (List.cons_ne_nil next rest), by simp⟩

/-- Before the rest of some pieces there is nothing, or it ends with a separator. -/
theorem exists_join_append (c : Char) (pieces : List (List Char)) {rest : List (List Char)}
    (hrest : rest ≠ []) :
    ∃ before, join c (pieces ++ rest) = before ++ join c rest
      ∧ ∀ x ∈ before.getLast?, x = c := by
  induction pieces with
  | nil => exact ⟨[], rfl, by simp⟩
  | cons piece others ih =>
    obtain ⟨before, hjoin, hends⟩ := ih
    refine ⟨piece ++ c :: before, ?_, fun x hx => ?_⟩
    · rw [List.cons_append, join_cons c piece (List.append_ne_nil_of_right_ne_nil others hrest),
        hjoin, List.append_assoc, List.cons_append]
    · cases before with
      | nil => simpa using hx.symm
      | cons first more => exact hends x (by simpa using hx)

/-- A piece is cut off before the separator that follows it, or before the end. -/
theorem mem_pieces_append_right (hpiece : c ∉ piece) {after : List Char}
    (hafter : ∀ x ∈ after.head?, x = c) : piece ∈ pieces c (piece ++ after) := by
  cases after with
  | nil =>
    rw [List.append_nil, pieces_eq_singleton hpiece]
    exact List.mem_singleton_self piece
  | cons x rest =>
    obtain rfl := hafter x rfl
    rw [pieces_append_cons hpiece]
    exact List.mem_cons_self

/-- What stands before a separator does not bear on the pieces behind it. -/
theorem mem_pieces_append_left {before rest : List Char} (hbefore : ∀ x ∈ before.getLast?, x = c)
    (h : piece ∈ pieces c rest) : piece ∈ pieces c (before ++ rest) := by
  rcases List.eq_nil_or_concat before with rfl | ⟨first, last, rfl⟩
  · exact h
  · obtain rfl := hbefore last (by simp)
    rw [List.concat_append, pieces_append]
    exact List.mem_append_right _ h

/-- **A text is cut into what stands between its separators.** -/
theorem mem_pieces_iff : piece ∈ pieces c text ↔ Between c text piece := by
  constructor
  · intro h
    obtain ⟨former, latter, hsplit⟩ := List.append_of_mem h
    obtain ⟨before, hbefore, hleft⟩ :=
      exists_join_append c former (List.cons_ne_nil piece latter)
    obtain ⟨after, hafter, hright⟩ := exists_join_cons c piece latter
    refine ⟨not_mem_of_mem_pieces h, before, after, ?_, hleft, hright⟩
    rw [List.append_assoc, ← hafter, ← hbefore, ← hsplit, join_pieces]
  · rintro ⟨hpiece, before, after, rfl, hleft, hright⟩
    rw [List.append_assoc]
    exact mem_pieces_append_left hleft (mem_pieces_append_right hpiece hright)

/-! ## Between white space -/

/-- **A text is what another is trimmed to**: white space stands before and behind
it, and none at its own ends. -/
def Trims (text core : List Char) : Prop :=
  ∃ before after, before ++ core ++ after = text
    ∧ (∀ x ∈ before, isBlank x = true) ∧ (∀ x ∈ after, isBlank x = true)
    ∧ (∀ x ∈ core.head?, isBlank x = false) ∧ ∀ x ∈ core.getLast?, isBlank x = false

/-- The white space before what does not start with any is dropped, and nothing
else. -/
theorem dropWhile_isBlank_append {before rest : List Char}
    (hbefore : ∀ x ∈ before, isBlank x = true)
    (hrest : ∀ x ∈ rest.head?, isBlank x = false) :
    (before ++ rest).dropWhile isBlank = rest := by
  rw [List.dropWhile_append_of_pos hbefore]
  cases rest with
  | nil => rfl
  | cons x more => rw [List.dropWhile_cons_of_neg (by simp [hrest x rfl])]

theorem trims_trimChars (text : List Char) : Trims text (trimChars text) := by
  have hhead := fun x (hx : (trimChars text).head? = some x) =>
    not_isBlank_of_ends_trimChars (.inl hx)
  have hlast := fun x (hx : (trimChars text).getLast? = some x) =>
    not_isBlank_of_ends_trimChars (.inr hx)
  have hparts : trimChars text ++ ((text.dropWhile isBlank).reverse.takeWhile isBlank).reverse
      = text.dropWhile isBlank := by
    rw [trimChars, ← List.reverse_append, List.takeWhile_append_dropWhile, List.reverse_reverse]
  refine ⟨text.takeWhile isBlank, ((text.dropWhile isBlank).reverse.takeWhile isBlank).reverse,
    ?_, fun x hx => List.mem_takeWhile_imp hx,
    fun x hx => List.mem_takeWhile_imp (List.mem_reverse.1 hx), hhead, hlast⟩
  rw [List.append_assoc, hparts, List.takeWhile_append_dropWhile]

/-- **Trimming finds what stands between the white space**, and there is one such
text only. -/
theorem trimChars_eq_iff {core : List Char} : trimChars text = core ↔ Trims text core := by
  refine ⟨fun h => h ▸ trims_trimChars text, ?_⟩
  rintro ⟨before, after, rfl, hbefore, hafter, hhead, hlast⟩
  cases core with
  | nil =>
    -- all of the text is white space
    have hall : (before ++ [] ++ after).dropWhile isBlank = [] := by
      rw [List.append_nil, List.dropWhile_eq_nil_iff]
      exact fun x hx => (List.mem_append.1 hx).elim (hbefore x) (hafter x)
    rw [trimChars, hall]
    rfl
  | cons first more =>
    have hfront : (before ++ first :: more ++ after).dropWhile isBlank
        = first :: more ++ after := by
      rw [List.append_assoc]
      exact dropWhile_isBlank_append hbefore hhead
    have hback : (first :: more ++ after).reverse.dropWhile isBlank = (first :: more).reverse := by
      rw [List.reverse_append]
      refine dropWhile_isBlank_append (fun x hx => hafter x (List.mem_reverse.1 hx)) fun x hx => ?_
      rw [List.head?_reverse] at hx
      exact hlast x hx
    rw [trimChars, hfront, hback, List.reverse_reverse]

end BuildVariants.Text
