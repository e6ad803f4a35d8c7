import BuildVariants.Proofs.Condition
import BuildVariants.Proofs.Text.Words

/-!
# What the text of a condition is made of

A condition is written as clauses, such as `+cuda` or `network=gasnet`, that
stand side by side with blanks between them; a negation is written around some
more of them, in brackets. Clauses carry what the text shows and nothing else:
the grouping of conditions is not in the text and not in the clauses.

A text has one reading as clauses (`listText_append_inj`). A clause is read off
by the word it starts with and the mark behind that, and a list of clauses ends
where the text does or at the bracket that closes a negation; the induction is
on the clauses, with whatever text follows them.
-/

namespace BuildVariants

/-! ## Words -/

/-- **Whether a character is a mark** of the syntax of conditions. -/
def isMark (c : Char) : Bool := " ()=!+~%".toList.contains c

/-- **A word holds no marks**, and is not empty: letters and digits of any
alphabet, `_`, `.` and `-` among others. -/
def Word (text : String) : Prop := text.toList ≠ [] ∧ ∀ c ∈ text.toList, isMark c = false

-- decided by the characters of the text, not by looking at every character there is
instance (text : String) : Decidable (Word text) :=
  @instDecidableAnd _ _ _ (List.decidableBAll _ text.toList)

/-- **What words are made of**: letters, digits, `_`, `.` and `-` are no marks. -/
theorem word_of_forall {text : String} (hne : text.toList ≠ [])
    (h : ∀ c ∈ text.toList, (c.isAlphanum || "_.-".toList.contains c) = true) : Word text :=
  ⟨hne, Text.contains_eq_false_of_forall (by decide) h⟩

/-- A text that is at its end or goes on with a mark. -/
def Marked (rest : List Char) : Prop := ∀ c, rest.head? = some c → isMark c = true

/-! ## Clauses -/

/-- **A piece of the text of a condition.** -/
inductive Clause
  | always
  /-- No text at all: no condition stands where some could. -/
  | nothing
  | on (name : String)
  | off (name : String)
  | equals (name value : String)
  | differs (name value : String)
  | compiler (family : String)
  | negated (clauses : List Clause)

namespace Clause

mutual
/-- The text of a clause. -/
def text : Clause → List Char
  | always => "always".toList
  | nothing => []
  | on name => '+' :: name.toList
  | off name => '~' :: name.toList
  | equals name value => name.toList ++ '=' :: value.toList
  | differs name value => name.toList ++ '!' :: '=' :: value.toList
  | compiler family => '%' :: family.toList
  | negated clauses => "not".toList ++ '(' :: (listText clauses ++ [')'])
/-- The text of some clauses, with blanks between them. -/
def listText : List Clause → List Char
  | [] => []
  | clause :: rest => clause.text ++ moreText rest
/-- The text of some clauses that stand behind others. -/
def moreText : List Clause → List Char
  | [] => []
  | clause :: rest => ' ' :: (clause.text ++ moreText rest)
end

mutual
/-- Whether a clause holds. -/
def holds (resolved : ResolvedSpec) : Clause → Bool
  | always => true
  | nothing => true
  | on name => resolved.values.enabled name
  | off name => !resolved.values.enabled name
  | equals name value => resolved.values.holds name value
  | differs name value => !resolved.values.holds name value
  | compiler family => resolved.compiler.family = .ofName family
  | negated clauses => !allHold resolved clauses
/-- Whether all of some clauses hold. -/
def allHold (resolved : ResolvedSpec) : List Clause → Bool
  | [] => true
  | clause :: rest => clause.holds resolved && allHold resolved rest
end

mutual
/-- The variants that a clause compares with a text. -/
def asked : Clause → List String
  | equals name _ => [name]
  | differs name _ => [name]
  | negated clauses => listAsked clauses
  | always | nothing | on _ | off _ | compiler _ => []
/-- The variants that some clauses compare with a text. -/
def listAsked : List Clause → List String
  | [] => []
  | clause :: rest => clause.asked ++ listAsked rest
end

mutual
/-- **A clause is well formed** if its names and values are words, and a
negation has something to negate. -/
def WellFormed : Clause → Prop
  | always => True
  | nothing => True
  | on name => Word name
  | off name => Word name
  | equals name value => Word name ∧ Word value
  | differs name value => Word name ∧ Word value
  | compiler family => Word family
  | negated clauses => clauses ≠ [] ∧ AllWellFormed clauses
/-- Some clauses are well formed. -/
def AllWellFormed : List Clause → Prop
  | [] => True
  | clause :: rest => clause.WellFormed ∧ AllWellFormed rest
end

/-! ## Clauses side by side -/

theorem moreText_append (first second : List Clause) :
    moreText (first ++ second) = moreText first ++ moreText second := by
  induction first with
  | nil => rfl
  | cons clause rest ih =>
    rw [List.cons_append, moreText, moreText, ih, List.cons_append, List.append_assoc]

/-- Clauses that stand side by side are written with a blank in between. -/
theorem listText_append {first second : List Clause} (hfirst : first ≠ []) (hsecond : second ≠ []) :
    listText (first ++ second) = listText first ++ ' ' :: listText second := by
  cases first with
  | nil => exact absurd rfl hfirst
  | cons clause rest =>
    cases second with
    | nil => exact absurd rfl hsecond
    | cons clause' rest' =>
      rw [List.cons_append, listText, listText, listText, moreText_append, moreText,
        List.append_assoc]

theorem allHold_append (resolved : ResolvedSpec) (first second : List Clause) :
    allHold resolved (first ++ second) = (allHold resolved first && allHold resolved second) := by
  induction first with
  | nil => rfl
  | cons clause rest ih => rw [List.cons_append, allHold, allHold, ih, Bool.and_assoc]

theorem listAsked_append (first second : List Clause) :
    listAsked (first ++ second) = listAsked first ++ listAsked second := by
  induction first with
  | nil => rfl
  | cons clause rest ih => rw [List.cons_append, listAsked, listAsked, ih, List.append_assoc]

theorem allWellFormed_append {first second : List Clause} (hfirst : AllWellFormed first)
    (hsecond : AllWellFormed second) : AllWellFormed (first ++ second) := by
  induction first with
  | nil => exact hsecond
  | cons clause rest ih => exact ⟨hfirst.1, ih hfirst.2⟩

/-- One clause is a list of clauses, with the same text and meaning. -/
theorem listText_singleton (clause : Clause) : listText [clause] = clause.text := by
  rw [listText, moreText, List.append_nil]

theorem allHold_singleton (resolved : ResolvedSpec) (clause : Clause) :
    allHold resolved [clause] = clause.holds resolved := by
  rw [allHold, allHold, Bool.and_true]

theorem listAsked_singleton (clause : Clause) : listAsked [clause] = clause.asked := by
  rw [listAsked, listAsked, List.append_nil]

theorem allWellFormed_singleton {clause : Clause} (h : clause.WellFormed) :
    AllWellFormed [clause] := ⟨h, trivial⟩

/-! ## Reading a text as clauses -/

/-- The word that a clause starts with, if any. -/
def lead : Clause → List Char
  | always => "always".toList
  | equals name _ => name.toList
  | differs name _ => name.toList
  | negated _ => "not".toList
  | nothing | on _ | off _ | compiler _ => []

/-- The mark behind that word, if any. -/
def mark? : Clause → Option Char
  | on _ => some '+'
  | off _ => some '~'
  | equals _ _ => some '='
  | differs _ _ => some '!'
  | compiler _ => some '%'
  | negated _ => some '('
  | always | nothing => none

/-- What stands behind the mark. -/
def body : Clause → List Char
  | on name => name.toList
  | off name => name.toList
  | equals _ value => value.toList
  | differs _ value => '=' :: value.toList
  | compiler family => family.toList
  | negated clauses => listText clauses ++ [')']
  | always | nothing => []

/-- **A clause is a word, a mark and what stands behind it.** -/
theorem text_eq (clause : Clause) :
    clause.text = clause.lead ++ (clause.mark?.toList ++ clause.body) := by
  cases clause <;> rfl

/-- There is no mark in the word that a clause starts with. -/
theorem isMark_eq_false_of_mem_lead {clause : Clause} (h : clause.WellFormed) :
    ∀ c ∈ clause.lead, isMark c = false := by
  cases clause with
  | always => exact (by decide : Word "always").2
  | negated => exact (by decide : Word "not").2
  | equals name value => exact h.1.2
  | differs name value => exact h.1.2
  | nothing | on | off | compiler => exact List.forall_mem_nil _

/-- **A clause ends** where its text does, at a blank, or at the bracket that
closes a negation. -/
def Ends (rest : List Char) : Prop := ∀ c, rest.head? = some c → c = ' ' ∨ c = ')'

theorem Ends.marked {rest : List Char} (h : Ends rest) : Marked rest := by
  intro c hc
  rcases h c hc with rfl | rfl <;> decide

/-- The mark that a text goes on with, unless it ends a clause. -/
def innerMark? (rest : List Char) : Option Char := rest.head?.filter fun c => c ≠ ' ' ∧ c ≠ ')'

theorem innerMark?_of_ends {rest : List Char} (h : Ends rest) : innerMark? rest = none := by
  unfold innerMark?
  rw [Option.filter_eq_none_iff]
  intro c hc
  rcases h c hc with rfl | rfl <;> decide

/-- The mark behind its first word tells which clause it is. -/
theorem innerMark?_behind_lead {clause : Clause} {rest : List Char} (h : Ends rest) :
    innerMark? (clause.mark?.toList ++ (clause.body ++ rest)) = clause.mark? := by
  cases clause with
  | always => exact innerMark?_of_ends h
  | nothing => exact innerMark?_of_ends h
  | on | off | equals | differs | compiler | negated => rfl

/-- Behind the first word of a clause there is a mark or the end. -/
theorem marked_behind_lead {clause : Clause} {rest : List Char} (h : Ends rest) :
    Marked (clause.mark?.toList ++ (clause.body ++ rest)) := by
  cases clause with
  | always => exact h.marked
  | nothing => exact h.marked
  | on | off | equals | differs | compiler | negated =>
    intro c hc
    rw [← Option.some.inj hc]
    decide

/-- **The parts of a clause are read off its text.** -/
theorem parts_inj {first second : Clause} {rest rest' : List Char} (hfirst : first.WellFormed)
    (hsecond : second.WellFormed) (hrest : Ends rest) (hrest' : Ends rest')
    (h : first.text ++ rest = second.text ++ rest') :
    first.lead = second.lead ∧ first.mark? = second.mark?
      ∧ first.body ++ rest = second.body ++ rest' := by
  rw [text_eq, text_eq, List.append_assoc, List.append_assoc, List.append_assoc,
    List.append_assoc] at h
  obtain ⟨hlead, hbehind⟩ := Text.append_inj_of_ends (isMark_eq_false_of_mem_lead hfirst)
    (isMark_eq_false_of_mem_lead hsecond) (marked_behind_lead hrest) (marked_behind_lead hrest') h
  have hmark := congrArg innerMark? hbehind
  rw [innerMark?_behind_lead hrest, innerMark?_behind_lead hrest'] at hmark
  rw [hmark] at hbehind
  exact ⟨hlead, hmark, List.append_cancel_left hbehind⟩

/-- A word is read off the text that it starts. -/
theorem word_inj {first second : String} {rest rest' : List Char} (hfirst : Word first)
    (hsecond : Word second) (hrest : Ends rest) (hrest' : Ends rest')
    (h : first.toList ++ rest = second.toList ++ rest') : first = second ∧ rest = rest' := by
  obtain ⟨heq, htail⟩ := Text.append_inj_of_ends hfirst.2 hsecond.2 hrest.marked hrest'.marked h
  exact ⟨String.toList_injective heq, htail⟩

/-- **A list of clauses ends** where its text does, or at the bracket that closes
a negation. -/
def Closes (rest : List Char) : Prop := ∀ c, rest.head? = some c → c = ')'

/-- A clause ends where others stand behind it, or where the list of clauses ends.
-/
theorem Closes.ends_moreText {clauses : List Clause} {rest : List Char} (h : Closes rest) :
    Ends (moreText clauses ++ rest) := by
  intro c hc
  cases clauses with
  | nil => exact .inr (h c hc)
  | cons => exact .inl (Option.some.inj hc).symm

theorem closes_bracket (rest : List Char) : Closes (')' :: rest) :=
  fun _ hc => (Option.some.inj hc).symm

mutual
/-- **The text of a clause has one reading**, with whatever stands behind it. -/
theorem text_append_inj : ∀ {first second : Clause} {rest rest' : List Char},
    first.WellFormed → second.WellFormed → Ends rest → Ends rest' →
    first.text ++ rest = second.text ++ rest' → first = second ∧ rest = rest'
  | always, second, _, _, hfirst, hsecond, hrest, hrest', h => by
    obtain ⟨hlead, hmark, hbody⟩ := parts_inj hfirst hsecond hrest hrest' h
    cases second with
    | always => exact ⟨rfl, hbody⟩
    | nothing => cases hlead
    | on | off | equals | differs | compiler | negated => cases hmark
  | nothing, second, _, _, hfirst, hsecond, hrest, hrest', h => by
    obtain ⟨hlead, hmark, hbody⟩ := parts_inj hfirst hsecond hrest hrest' h
    cases second with
    | nothing => exact ⟨rfl, hbody⟩
    | always => cases hlead
    | on | off | equals | differs | compiler | negated => cases hmark
  | on name, second, _, _, hfirst, hsecond, hrest, hrest', h => by
    obtain ⟨_, hmark, hbody⟩ := parts_inj hfirst hsecond hrest hrest' h
    cases second with
    | on name' =>
      obtain ⟨rfl, htail⟩ := word_inj hfirst hsecond hrest hrest' hbody
      exact ⟨rfl, htail⟩
    | always | nothing | off | equals | differs | compiler | negated => cases hmark
  | off name, second, _, _, hfirst, hsecond, hrest, hrest', h => by
    obtain ⟨_, hmark, hbody⟩ := parts_inj hfirst hsecond hrest hrest' h
    cases second with
    | off name' =>
      obtain ⟨rfl, htail⟩ := word_inj hfirst hsecond hrest hrest' hbody
      exact ⟨rfl, htail⟩
    | always | nothing | on | equals | differs | compiler | negated => cases hmark
  | equals name value, second, _, _, hfirst, hsecond, hrest, hrest', h => by
    obtain ⟨hlead, hmark, hbody⟩ := parts_inj hfirst hsecond hrest hrest' h
    cases second with
    | equals name' value' =>
      obtain rfl := String.toList_injective hlead
      obtain ⟨rfl, htail⟩ := word_inj hfirst.2 hsecond.2 hrest hrest' hbody
      exact ⟨rfl, htail⟩
    | always | nothing | on | off | differs | compiler | negated => cases hmark
  | differs name value, second, _, _, hfirst, hsecond, hrest, hrest', h => by
    obtain ⟨hlead, hmark, hbody⟩ := parts_inj hfirst hsecond hrest hrest' h
    cases second with
    | differs name' value' =>
      obtain rfl := String.toList_injective hlead
      obtain ⟨rfl, htail⟩ := word_inj hfirst.2 hsecond.2 hrest hrest' (List.cons.inj hbody).2
      exact ⟨rfl, htail⟩
    | always | nothing | on | off | equals | compiler | negated => cases hmark
  | compiler family, second, _, _, hfirst, hsecond, hrest, hrest', h => by
    obtain ⟨_, hmark, hbody⟩ := parts_inj hfirst hsecond hrest hrest' h
    cases second with
    | compiler family' =>
      obtain ⟨rfl, htail⟩ := word_inj hfirst hsecond hrest hrest' hbody
      exact ⟨rfl, htail⟩
    | always | nothing | on | off | equals | differs | negated => cases hmark
  | negated clauses, second, rest, rest', hfirst, hsecond, hrest, hrest', h => by
    obtain ⟨_, hmark, hbody⟩ := parts_inj hfirst hsecond hrest hrest' h
    cases second with
    | negated clauses' =>
      rw [body, body, List.append_assoc, List.append_assoc] at hbody
      obtain ⟨rfl, htail⟩ := listText_append_inj hfirst.1 hsecond.1 hfirst.2 hsecond.2
        (closes_bracket rest) (closes_bracket rest') hbody
      exact ⟨rfl, (List.cons.inj htail).2⟩
    | always | nothing | on | off | equals | differs | compiler => cases hmark
/-- **The text of some clauses has one reading.** -/
theorem listText_append_inj : ∀ {first second : List Clause} {rest rest' : List Char},
    first ≠ [] → second ≠ [] → AllWellFormed first → AllWellFormed second →
    Closes rest → Closes rest' →
    listText first ++ rest = listText second ++ rest' → first = second ∧ rest = rest'
  | [], _, _, _, hne, _, _, _, _, _, _ => absurd rfl hne
  | _ :: _, [], _, _, _, hne, _, _, _, _, _ => absurd rfl hne
  | clause :: more, clause' :: more', _, _, _, _, hfirst, hsecond, hrest, hrest', h => by
    rw [listText, listText, List.append_assoc, List.append_assoc] at h
    obtain ⟨rfl, htail⟩ := text_append_inj hfirst.1 hsecond.1 hrest.ends_moreText
      hrest'.ends_moreText h
    obtain ⟨rfl, heq⟩ := moreText_append_inj hfirst.2 hsecond.2 hrest hrest' htail
    exact ⟨rfl, heq⟩
/-- The text of some clauses behind others has one reading. -/
theorem moreText_append_inj : ∀ {first second : List Clause} {rest rest' : List Char},
    AllWellFormed first → AllWellFormed second → Closes rest → Closes rest' →
    moreText first ++ rest = moreText second ++ rest' → first = second ∧ rest = rest'
  | [], [], _, _, _, _, _, _, h => ⟨rfl, h⟩
  | [], _ :: _, _, _, _, _, hrest, _, h => by
    cases hrest ' ' (congrArg List.head? h)
  | _ :: _, [], _, _, _, _, _, hrest', h => by
    cases hrest' ' ' (congrArg List.head? h).symm
  | clause :: more, clause' :: more', _, _, hfirst, hsecond, hrest, hrest', h => by
    rw [moreText, moreText, List.cons_append, List.cons_append, List.append_assoc,
      List.append_assoc] at h
    obtain ⟨rfl, htail⟩ := text_append_inj hfirst.1 hsecond.1 hrest.ends_moreText
      hrest'.ends_moreText (List.cons.inj h).2
    obtain ⟨rfl, heq⟩ := moreText_append_inj hfirst.2 hsecond.2 hrest hrest' htail
    exact ⟨rfl, heq⟩
end

end Clause

end BuildVariants
