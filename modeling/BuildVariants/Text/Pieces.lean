/-!
# Cutting a text at a character

Two ways to cut: at the first occurrence of a character, into what stands
before and after it; and at every occurrence, into pieces. Joining the parts
with the character gives the text back (`join_cutAt?`, `join_pieces`), and no
piece holds the character. Texts without the character that are joined are cut
apart again (`pieces_join`).
-/

namespace BuildVariants.Text

/-- What stands before and after the first `c`, if there is one. -/
def cutAt? (c : Char) : List Char → Option (List Char × List Char)
  | [] => none
  | x :: rest => if x = c then some ([], rest) else (cutAt? c rest).map fun p => (x :: p.1, p.2)

/-- The pieces between the occurrences of `c`; a text without `c` is one
piece. -/
def pieces (c : Char) : List Char → List (List Char)
  | [] => [[]]
  | x :: rest =>
    if x = c then [] :: pieces c rest
    else match pieces c rest with
      | [] => [[x]]
      | first :: others => (x :: first) :: others

/-- Texts one after the other with `c` between them. -/
def join (c : Char) : List (List Char) → List Char
  | [] => []
  | [text] => text
  | text :: others => text ++ c :: join c others

/-- What stands before and after the first `c`, with `c` between, is the text. -/
theorem join_cutAt? {c : Char} {text before after : List Char}
    (h : cutAt? c text = some (before, after)) : before ++ c :: after = text := by
  induction text generalizing before with
  | nil => simp [cutAt?] at h
  | cons x rest ih =>
    rw [cutAt?] at h
    split at h
    · next heq => simp_all
    · simp only [Option.map_eq_some_iff, Prod.mk.injEq, Prod.exists] at h
      obtain ⟨a, b, hcut, rfl, rfl⟩ := h
      simp [ih hcut]

/-- A text is cut at the first `c`, whatever stands behind it. -/
theorem cutAt?_append {c : Char} {before : List Char} (h : c ∉ before)
    (after : List Char) : cutAt? c (before ++ c :: after) = some (before, after) := by
  induction before with
  | nil => rw [List.nil_append, cutAt?, if_pos rfl]
  | cons x rest ih =>
    rw [List.mem_cons, not_or] at h
    obtain ⟨hx, hrest⟩ := h
    rw [List.cons_append, cutAt?, if_neg (Ne.symm hx), ih hrest]
    rfl

/-- No `c` stands before the first one. -/
theorem not_mem_of_cutAt? {c : Char} {text before after : List Char}
    (h : cutAt? c text = some (before, after)) : c ∉ before := by
  induction text generalizing before with
  | nil => simp [cutAt?] at h
  | cons x rest ih =>
    rw [cutAt?] at h
    split at h
    · simp_all
    · next hne =>
      simp only [Option.map_eq_some_iff, Prod.mk.injEq, Prod.exists] at h
      obtain ⟨a, b, hcut, rfl, rfl⟩ := h
      simp [ih hcut, Ne.symm hne]

/-- Only a text without `c` cannot be cut at it. -/
theorem cutAt?_eq_none_iff {c : Char} {text : List Char} : cutAt? c text = none ↔ c ∉ text := by
  induction text with
  | nil => simp [cutAt?]
  | cons x rest ih =>
    rw [cutAt?]
    split
    · next heq => simp [heq]
    · next hne => simp [ih, Ne.symm hne]

/-- Every text has a piece, the empty one too. -/
theorem pieces_ne_nil (c : Char) (text : List Char) : pieces c text ≠ [] := by
  cases text with
  | nil => simp [pieces]
  | cons x rest =>
    rw [pieces]
    split
    · simp
    · split <;> simp

/-- Joining is what the library calls intercalating. -/
theorem join_eq_intercalate (c : Char) (texts : List (List Char)) :
    join c texts = [c].intercalate texts := by
  induction texts with
  | nil => rfl
  | cons text others ih =>
    cases others with
    | nil => simp [join]
    | cons next rest => simp [join, ih]

theorem join_cons_cons (c x : Char) (first : List Char) (others : List (List Char)) :
    join c ((x :: first) :: others) = x :: join c (first :: others) := by
  cases others <;> simp [join]

theorem join_cons (c : Char) (text : List Char) {others : List (List Char)} (h : others ≠ []) :
    join c (text :: others) = text ++ c :: join c others := by
  cases others with
  | nil => exact absurd rfl h
  | cons => rfl

theorem join_nil_cons (c : Char) {others : List (List Char)} (h : others ≠ []) :
    join c ([] :: others) = c :: join c others :=
  join_cons c [] h

/-- The pieces of a text make it up again. -/
theorem join_pieces (c : Char) (text : List Char) : join c (pieces c text) = text := by
  induction text with
  | nil => rfl
  | cons x rest ih =>
    rw [pieces]
    split
    · next heq => rw [join_nil_cons c (pieces_ne_nil c rest), ih, heq]
    · split
      · next hp => exact absurd hp (pieces_ne_nil c rest)
      · next first others hp => rw [join_cons_cons, ← hp, ih]

/-- No piece holds the character at which a text is cut. -/
theorem not_mem_of_mem_pieces {c : Char} {text piece : List Char} (h : piece ∈ pieces c text) :
    c ∉ piece := by
  induction text generalizing piece with
  | nil => simp_all [pieces]
  | cons x rest ih =>
    rw [pieces] at h
    split at h
    · rcases List.mem_cons.1 h with rfl | h
      · simp
      · exact ih h
    · next hne =>
      split at h
      · next hp => exact absurd hp (pieces_ne_nil c rest)
      · next first others hp =>
        rcases List.mem_cons.1 h with rfl | h
        · simp [Ne.symm hne, ih (hp ▸ List.mem_cons_self)]
        · exact ih (hp ▸ List.mem_cons_of_mem _ h)

theorem pieces_eq_singleton {c : Char} {text : List Char} (h : c ∉ text) :
    pieces c text = [text] := by
  induction text with
  | nil => rfl
  | cons x rest ih =>
    rw [List.mem_cons, not_or] at h
    obtain ⟨hx, hrest⟩ := h
    rw [pieces, if_neg (Ne.symm hx), ih hrest]

/-- A text is cut at every occurrence, so both sides of one are cut on their own. -/
theorem pieces_append (c : Char) (before after : List Char) :
    pieces c (before ++ c :: after) = pieces c before ++ pieces c after := by
  induction before with
  | nil => exact if_pos rfl
  | cons x rest ih =>
    rw [List.cons_append, pieces, pieces, ih]
    split
    · rfl
    · cases hrest : pieces c rest with
      | nil => exact absurd hrest (pieces_ne_nil c rest)
      | cons => rfl

/-- The first piece ends at the first `c`. -/
theorem pieces_append_cons {c : Char} {line : List Char} (h : c ∉ line) (rest : List Char) :
    pieces c (line ++ c :: rest) = line :: pieces c rest := by
  rw [pieces_append, pieces_eq_singleton h, List.singleton_append]

/-- Texts that are joined are cut apart again, if none of them holds the
character between them. -/
theorem pieces_join {c : Char} {texts : List (List Char)} (hne : texts ≠ [])
    (h : ∀ text ∈ texts, c ∉ text) : pieces c (join c texts) = texts := by
  induction texts with
  | nil => exact absurd rfl hne
  | cons text others ih =>
    obtain ⟨htext, hothers⟩ := List.forall_mem_cons.1 h
    cases others with
    | nil => exact pieces_eq_singleton htext
    | cons next rest =>
      rw [join_cons c text (List.cons_ne_nil next rest), pieces_append_cons htext,
        ih (List.cons_ne_nil next rest) hothers]

end BuildVariants.Text
