import BuildVariants.Proofs.Condition.Clauses
import BuildVariants.Proofs.Legion.Values

/-!
# What the text of a condition tells

A condition is reported by its text, and different conditions can have one text.
Side by side, conditions lose the grouping they had; a negation is written as
the syntax has it, in front of what it negates or inside of it; and to be set is
written like to be different from the text for an unset path. None of that
matters: conditions with one text hold of the same specs (`holds_eq_of_render_eq`),
so that the text can be trusted to tell what was checked.

Between a condition and its text stand its clauses. They have the text of the
condition (`toList_render`), and they hold if the condition does
(`allHold_clauses`), on specs where what is compared with a text is bound to
one: an integer that reads like the text, or a list that holds it, satisfies a
comparison and is still not set. What Legion's rules and dependencies compare
with a text always is (`Legion.singleValued_asked`).
-/

namespace BuildVariants

namespace Condition

/-! ## The clauses of a condition -/

/-- The clauses of the negation of a condition with some clauses. The syntax has
a negative for three of the conditions; the others are negated as a whole. -/
def negate (clauses : List Clause) : Condition → List Clause
  | equals name value => [.differs name value]
  | enabled name => [.off name]
  | disabled name => [.on name]
  | always | isSet _ | compiler _ | not _ | all _ => [.negated clauses]

/-- Where conditions could stand side by side and none does, there is nothing. -/
def orNothing : List Clause → List Clause
  | [] => [.nothing]
  | clause :: rest => clause :: rest

mutual
/-- **The clauses that a condition is written as.** -/
def clauses : Condition → List Clause
  | always => [.always]
  | enabled name => [.on name]
  | disabled name => [.off name]
  | equals name value => [.equals name value]
  | isSet name => [.differs name unset]
  | compiler family => [.compiler family.name]
  | not condition => negate condition.clauses condition
  | all conditions => orNothing (clausesEach conditions)
/-- The clauses of conditions that stand side by side. -/
def clausesEach : List Condition → List Clause
  | [] => []
  | condition :: rest => condition.clauses ++ clausesEach rest
end

theorem negate_ne_nil (clauses : List Clause) (condition : Condition) :
    negate clauses condition ≠ [] := by
  cases condition <;> exact List.cons_ne_nil _ _

theorem orNothing_ne_nil (clauses : List Clause) : orNothing clauses ≠ [] := by
  cases clauses <;> exact List.cons_ne_nil _ _

/-- Every condition has a clause. -/
theorem clauses_ne_nil (condition : Condition) : condition.clauses ≠ [] := by
  cases condition with
  | not condition => exact negate_ne_nil _ condition
  | all conditions => exact orNothing_ne_nil _
  | always | enabled | disabled | equals | isSet | compiler => exact List.cons_ne_nil _ _

theorem clausesEach_cons_ne_nil (condition : Condition) (rest : List Condition) :
    clausesEach (condition :: rest) ≠ [] :=
  List.append_ne_nil_of_left_ne_nil condition.clauses_ne_nil _

/-! ## Their text -/

theorem listText_orNothing (clauses : List Clause) :
    Clause.listText (orNothing clauses) = Clause.listText clauses := by
  cases clauses <;> rfl

/-- A negation is written as its clauses are. -/
theorem toList_render_not {condition : Condition}
    (h : condition.render.toList = Clause.listText condition.clauses) :
    (not condition).render.toList = Clause.listText (negate condition.clauses condition) := by
  cases condition with
  | equals | enabled | disabled =>
    rw [negate, Clause.listText_singleton]
    simp [render, Clause.text]
  | always | isSet | compiler | not | all =>
    rw [negate, Clause.listText_singleton, Clause.text, ← h]
    simp [render]

mutual
/-- **The text of a condition is the text of its clauses.** -/
theorem toList_render :
    ∀ condition : Condition, condition.render.toList = Clause.listText condition.clauses
  | always => by rw [clauses, Clause.listText_singleton]; rfl
  | enabled name => by
    rw [clauses, Clause.listText_singleton, render, String.toList_append]
    rfl
  | disabled name => by
    rw [clauses, Clause.listText_singleton, render, String.toList_append]
    rfl
  | equals name value => by
    rw [clauses, Clause.listText_singleton]
    simp [render, Clause.text]
  | isSet name => by
    rw [clauses, Clause.listText_singleton]
    simp [render, Clause.text]
  | compiler family => by
    rw [clauses, Clause.listText_singleton, render, String.toList_append]
    rfl
  | not condition => by rw [clauses, toList_render_not (toList_render condition)]
  | all conditions => by
    rw [clauses, listText_orNothing, render, toList_intercalate_renderEach conditions]
/-- Conditions that stand side by side are written as their clauses are. -/
theorem toList_intercalate_renderEach : ∀ conditions : List Condition,
    (" ".intercalate (renderEach conditions)).toList = Clause.listText (clausesEach conditions)
  | [] => rfl
  | [condition] => by
    rw [clausesEach, clausesEach, List.append_nil, ← toList_render condition]
    simp [renderEach]
  | condition :: next :: rest => by
    rw [clausesEach, Clause.listText_append condition.clauses_ne_nil
      (clausesEach_cons_ne_nil next rest), ← toList_render condition,
      ← toList_intercalate_renderEach (next :: rest)]
    simp [renderEach, String.intercalate_cons_cons]
end

/-! ## Their meaning -/

mutual
/-- **A condition is worded** if its names and values are words, and its compiler
families are the ones their names stand for. -/
def Worded : Condition → Prop
  | always => True
  | enabled name => Word name
  | disabled name => Word name
  | equals name value => Word name ∧ Word value
  | isSet name => Word name
  | compiler family => Word family.name ∧ .ofName family.name = family
  | not condition => condition.Worded
  | all conditions => AllWorded conditions
/-- Some conditions are worded. -/
def AllWorded : List Condition → Prop
  | [] => True
  | condition :: rest => condition.Worded ∧ AllWorded rest
end

mutual
/-- Whether a condition is worded can be computed. -/
def decideWorded : (condition : Condition) → Decidable condition.Worded
  | always => inferInstanceAs (Decidable True)
  | enabled name => inferInstanceAs (Decidable (Word name))
  | disabled name => inferInstanceAs (Decidable (Word name))
  | equals name value => inferInstanceAs (Decidable (Word name ∧ Word value))
  | isSet name => inferInstanceAs (Decidable (Word name))
  | compiler family => inferInstanceAs (Decidable (Word family.name ∧ .ofName family.name = family))
  | not condition => decideWorded condition
  | all conditions => decideAllWorded conditions
/-- Whether some conditions are worded can be computed. -/
def decideAllWorded : (conditions : List Condition) → Decidable (AllWorded conditions)
  | [] => inferInstanceAs (Decidable True)
  | condition :: rest => @instDecidableAnd _ _ (decideWorded condition) (decideAllWorded rest)
end

instance (condition : Condition) : Decidable condition.Worded := decideWorded condition

mutual
/-- The variants that a condition compares with a text. -/
def asked : Condition → List String
  | equals name _ => [name]
  | isSet name => [name]
  | not condition => condition.asked
  | all conditions => askedEach conditions
  | always | enabled _ | disabled _ | compiler _ => []
/-- The variants that some conditions compare with a text. -/
def askedEach : List Condition → List String
  | [] => []
  | condition :: rest => condition.asked ++ askedEach rest
end

theorem listAsked_orNothing (clauses : List Clause) :
    Clause.listAsked (orNothing clauses) = Clause.listAsked clauses := by
  cases clauses <;> rfl

/-- A negation asks for the same variants. -/
theorem listAsked_negate {condition : Condition}
    (h : Clause.listAsked condition.clauses = condition.asked) :
    Clause.listAsked (negate condition.clauses condition) = condition.asked := by
  cases condition with
  | equals | enabled | disabled => exact Clause.listAsked_singleton _
  | always | isSet | compiler | not | all =>
    rw [negate, Clause.listAsked_singleton, Clause.asked, h]

mutual
/-- **What a condition compares with a text is seen from its clauses.** -/
theorem listAsked_clauses :
    ∀ condition : Condition, Clause.listAsked condition.clauses = condition.asked
  | always => rfl
  | enabled _ => rfl
  | disabled _ => rfl
  | equals _ _ => rfl
  | isSet _ => rfl
  | compiler _ => rfl
  | not condition => by rw [clauses, listAsked_negate (listAsked_clauses condition), asked]
  | all conditions => by
    rw [clauses, listAsked_orNothing, listAsked_clausesEach conditions, asked]
/-- What conditions that stand side by side compare with a text. -/
theorem listAsked_clausesEach :
    ∀ conditions : List Condition, Clause.listAsked (clausesEach conditions) = askedEach conditions
  | [] => rfl
  | condition :: rest => by
    rw [clausesEach, Clause.listAsked_append, listAsked_clauses condition,
      listAsked_clausesEach rest, askedEach]
end

/-- **A spec is single-valued on some variants** if each is bound to a text. -/
def SingleValued (resolved : ResolvedSpec) (names : List String) : Prop :=
  ∀ name ∈ names, ∃ text, resolved.values.get? name = some (.text text)

theorem singleValued_append {resolved : ResolvedSpec} {first second : List String} :
    SingleValued resolved (first ++ second)
      ↔ SingleValued resolved first ∧ SingleValued resolved second :=
  List.forall_mem_append

theorem allWellFormed_orNothing {clauses : List Clause} (h : Clause.AllWellFormed clauses) :
    Clause.AllWellFormed (orNothing clauses) := by
  cases clauses with
  | nil => exact ⟨trivial, trivial⟩
  | cons => exact h

/-- The negation of a worded condition is well-formed if the condition is. -/
theorem allWellFormed_negate {condition : Condition} (hworded : condition.Worded)
    (h : Clause.AllWellFormed condition.clauses) :
    Clause.AllWellFormed (negate condition.clauses condition) := by
  cases condition with
  | equals | enabled | disabled => exact Clause.allWellFormed_singleton hworded
  | always | isSet | compiler | not | all =>
    exact Clause.allWellFormed_singleton ⟨clauses_ne_nil _, h⟩

mutual
/-- **Worded conditions have well-formed clauses.** -/
theorem allWellFormed_clauses :
    ∀ condition : Condition, condition.Worded → Clause.AllWellFormed condition.clauses
  | always, _ => Clause.allWellFormed_singleton trivial
  | enabled _, h => Clause.allWellFormed_singleton h
  | disabled _, h => Clause.allWellFormed_singleton h
  | equals _ _, h => Clause.allWellFormed_singleton h
  | isSet _, h => Clause.allWellFormed_singleton ⟨h, by decide⟩
  | compiler _, h => Clause.allWellFormed_singleton h.1
  | not condition, h => allWellFormed_negate h (allWellFormed_clauses condition h)
  | all conditions, h => allWellFormed_orNothing (allWellFormed_clausesEach conditions h)
/-- Worded conditions that stand side by side have well-formed clauses. -/
theorem allWellFormed_clausesEach :
    ∀ conditions : List Condition, AllWorded conditions →
      Clause.AllWellFormed (clausesEach conditions)
  | [], _ => trivial
  | condition :: rest, h =>
    Clause.allWellFormed_append (allWellFormed_clauses condition h.1)
      (allWellFormed_clausesEach rest h.2)
end

variable {resolved : ResolvedSpec}

theorem allHold_orNothing (clauses : List Clause) :
    Clause.allHold resolved (orNothing clauses) = Clause.allHold resolved clauses := by
  cases clauses <;> rfl

/-- **The clauses of a negation hold if those of what it negates do not**, all
together. -/
theorem allHold_negate {condition : Condition}
    (h : Clause.allHold resolved condition.clauses = condition.holds resolved) :
    Clause.allHold resolved (negate condition.clauses condition) = !condition.holds resolved := by
  cases condition with
  | equals | enabled => rw [negate, Clause.allHold_singleton]; rfl
  | disabled => rw [negate, Clause.allHold_singleton, holds, Bool.not_not]; rfl
  | always | isSet | compiler | not | all =>
    rw [negate, Clause.allHold_singleton, Clause.holds, h]

/-- To be set is to be different from the text for an unset path, if the variant
holds a text at all. -/
theorem holds_differs_unset {name : String} (h : SingleValued resolved [name]) :
    (Clause.differs name unset).holds resolved = (isSet name).holds resolved := by
  obtain ⟨text, hget⟩ := h name (List.mem_singleton_self name)
  rw [Clause.holds, holds, Values.holds, Values.text?, hget]
  simp

mutual
/-- **The clauses of a condition hold if the condition does**, on specs where
what it compares with a text is bound to one. -/
theorem allHold_clauses : ∀ condition : Condition, condition.Worded →
    SingleValued resolved condition.asked →
    Clause.allHold resolved condition.clauses = condition.holds resolved
  | always, _, _ => rfl
  | enabled _, _, _ => Clause.allHold_singleton _ _
  | disabled _, _, _ => Clause.allHold_singleton _ _
  | equals _ _, _, _ => Clause.allHold_singleton _ _
  | isSet _, _, hbound => by
    rw [clauses, Clause.allHold_singleton, holds_differs_unset hbound]
  | compiler family, hworded, _ => by
    rw [clauses, Clause.allHold_singleton, Clause.holds, hworded.2, holds]
  | not condition, hworded, hbound => by
    rw [clauses, allHold_negate (allHold_clauses condition hworded hbound), holds]
  | all conditions, hworded, hbound => by
    rw [clauses, allHold_orNothing, allHold_clausesEach conditions hworded hbound, holds]
/-- Conditions that stand side by side hold if their clauses do. -/
theorem allHold_clausesEach : ∀ conditions : List Condition, AllWorded conditions →
    SingleValued resolved (askedEach conditions) →
    Clause.allHold resolved (clausesEach conditions) = allHold resolved conditions
  | [], _, _ => rfl
  | condition :: rest, hworded, hbound => by
    obtain ⟨hcondition, hrest⟩ := singleValued_append.1 hbound
    rw [clausesEach, Clause.allHold_append, allHold_clauses condition hworded.1 hcondition,
      allHold_clausesEach rest hworded.2 hrest, allHold]
end

/-! ## What the text tells -/

/-- **Conditions with one text have the same clauses.** -/
theorem clauses_eq_of_render_eq {first second : Condition} (hfirst : first.Worded)
    (hsecond : second.Worded) (h : first.render = second.render) :
    first.clauses = second.clauses := by
  have htext : Clause.listText first.clauses ++ [] = Clause.listText second.clauses ++ [] := by
    rw [← toList_render, ← toList_render, h]
  have hends : Clause.Closes [] := fun _ hc => by cases hc
  exact (Clause.listText_append_inj first.clauses_ne_nil second.clauses_ne_nil
    (allWellFormed_clauses first hfirst) (allWellFormed_clauses second hsecond)
    hends hends htext).1

/-- **Conditions with the same clauses hold of the same specs.** What one of them
compares with a text the other does too, so that it is enough to ask it of
one. -/
theorem holds_eq_of_clauses_eq {first second : Condition} (hfirst : first.Worded)
    (hsecond : second.Worded) (h : first.clauses = second.clauses)
    (hbound : SingleValued resolved first.asked) :
    first.holds resolved = second.holds resolved := by
  have hasked : first.asked = second.asked := by
    rw [← listAsked_clauses, ← listAsked_clauses, h]
  calc first.holds resolved
      = Clause.allHold resolved first.clauses := (allHold_clauses first hfirst hbound).symm
    _ = Clause.allHold resolved second.clauses := by rw [h]
    _ = second.holds resolved := allHold_clauses second hsecond (hasked ▸ hbound)

/-- **Conditions with one text hold of the same specs**, of those where what
they compare with a text is bound to one. -/
theorem holds_eq_of_render_eq {first second : Condition} (hfirst : first.Worded)
    (hsecond : second.Worded) (h : first.render = second.render)
    (hbound : SingleValued resolved (first.asked ++ second.asked)) :
    first.holds resolved = second.holds resolved := by
  have hclauses := clauses_eq_of_render_eq hfirst hsecond h
  exact holds_eq_of_clauses_eq hfirst hsecond hclauses (singleValued_append.1 hbound).1

/-- A path is set and CUDA is off, and not both of two other things are the case. -/
def grouped : Condition :=
  all [all [isSet "root", not (enabled "cuda")],
    not (all [not (disabled "debug"), all [compiler .clang]])]

/-- The same with other words and other groups. -/
def spread : Condition :=
  all [not (equals "root" unset), all [disabled "cuda"],
    not (all [all [enabled "debug", compiler .clang]])]

/-- A spec with a path. -/
def placed : ResolvedSpec := ⟨.default, ⟨.ofList [("root", .text "/opt")]⟩⟩

/-- They are told by one text. -/
theorem holds_grouped_eq_spread :
    grouped.render = "root!=none ~cuda not(+debug %clang)" ∧ grouped.render = spread.render
      ∧ grouped.holds placed = spread.holds placed ∧ spread.holds placed = true := by
  have hrender : grouped.render = spread.render := by decide +kernel
  have hroot : placed.values.get? "root" = some (.text "/opt") := by decide +kernel
  have hbound : SingleValued placed (grouped.asked ++ spread.asked) := by
    intro name hname
    have hone : ∀ name ∈ grouped.asked ++ spread.asked, name = "root" := by decide +kernel
    exact ⟨_, hone name hname ▸ hroot⟩
  have hgrouped : grouped.Worded := by decide +kernel
  have hspread : spread.Worded := by decide +kernel
  exact ⟨by decide +kernel, hrender, holds_eq_of_render_eq hgrouped hspread hrender hbound,
    by decide +kernel⟩

end Condition

namespace Legion

/-! ## What Legion's texts tell -/

/-- The conditions that are reported: those of the conflicts and those of the
dependencies. -/
def conditions : List Condition :=
  rules.map (·.condition) ++ dependencies.map (·.condition)

/-- **The conditions of Legion are worded.** -/
theorem worded_conditions : ∀ condition ∈ conditions, condition.Worded := by
  decide +kernel

/-- The conditions of Legion compare four variants with texts. -/
theorem asked_conditions : ∀ condition ∈ conditions, ∀ name ∈ condition.asked,
    name ∈ ["network", "conduit", "gasnet_root", "cuda_arch"] := by
  decide +kernel

/-- **What Legion's conditions compare with a text is bound to one**, whatever
was assigned. -/
theorem singleValued_asked {assignments : NameMap SuppliedValue} {resolved : ResolvedSpec}
    (h : schema.Completes assignments resolved.values) :
    ∀ condition ∈ conditions, Condition.SingleValued resolved condition.asked := by
  obtain ⟨network, _, hnetwork⟩ := exists_name h (show schema.find? "network" = _ from rfl)
  obtain ⟨conduit, _, hconduit⟩ := exists_name h (show schema.find? "conduit" = _ from rfl)
  obtain ⟨root, hroot⟩ := exists_path h (show schema.find? "gasnet_root" = _ from rfl)
  obtain ⟨arch, _, harch⟩ := exists_name h (show schema.find? "cuda_arch" = _ from rfl)
  have hall :
      Condition.SingleValued resolved ["network", "conduit", "gasnet_root", "cuda_arch"] := by
    unfold Condition.SingleValued
    simp only [List.forall_mem_cons, List.not_mem_nil, IsEmpty.forall_iff, implies_true, and_true]
    exact ⟨⟨_, hnetwork⟩, ⟨_, hconduit⟩, ⟨_, hroot⟩, ⟨_, harch⟩⟩
  exact fun condition hmem name hname => hall name (asked_conditions condition hmem name hname)

/-- **A text that is reported tells what was checked**: whatever condition has
the text that is reported for a conflict or a dependency, it holds of the same
builds as the one that was checked. -/
theorem holds_eq_of_reported {assignments : NameMap SuppliedValue} {resolved : ResolvedSpec}
    (h : schema.Completes assignments resolved.values) {checked told : Condition}
    (hchecked : checked ∈ conditions) (htold : told.Worded)
    (hrender : checked.render = told.render) : checked.holds resolved = told.holds resolved := by
  have hworded := worded_conditions checked hchecked
  exact Condition.holds_eq_of_clauses_eq hworded htold
    (Condition.clauses_eq_of_render_eq hworded htold hrender)
    (singleValued_asked h checked hchecked)

end Legion

end BuildVariants
