import BuildVariants.Condition

/-!
# What conditions say of the values

A condition is evaluated to a truth value. Here it is said what is the case
when it holds, in terms of what the variants it names are bound to. Where the
kind of a value matters, the value is given: a variant that is bound to an
integer, say, satisfies no statement about a truth value.

Which variants those are is `Condition.reads`, and a condition depends on no others
(`holds_of_agree`).
-/

namespace BuildVariants.Condition

variable {resolved : ResolvedSpec} {name : String}

-- the equations of the evaluation are derived once, here, and not from each of the
-- proofs below at the same time
attribute [local simp] holds allHold

/-- A variant is enabled if its value is true. -/
theorem holds_enabled_iff :
    (enabled name).holds resolved = true ↔ resolved.values.get? name = some (.bool true) := by
  rw [holds, Values.enabled]
  split
  · next hget => rw [hget, Option.some.injEq, Value.bool.injEq]
  · next hother => exact iff_of_false Bool.false_ne_true (hother true)

/-- A toggle is disabled if its value is false. -/
theorem holds_disabled_iff {b : Bool} (hget : resolved.values.get? name = some (.bool b)) :
    (disabled name).holds resolved = true ↔ resolved.values.get? name = some (.bool false) := by
  rw [holds, Values.enabled, hget, Option.some.injEq, Value.bool.injEq, Bool.not_eq_true']

/-- A variant whose value is a text equals that text alone. -/
theorem holds_equals_iff {text value : String}
    (hget : resolved.values.get? name = some (.text text)) :
    (equals name value).holds resolved = true
      ↔ resolved.values.get? name = some (.text value) := by
  rw [holds, Values.holds, hget, decide_eq_true_iff, Option.some.injEq, Value.text.injEq]

/-- A variant whose value is a text is set unless that text stands for no value. -/
theorem holds_isSet_iff {text : String} (hget : resolved.values.get? name = some (.text text)) :
    (isSet name).holds resolved = true ↔ resolved.values.get? name ≠ some (.text unset) := by
  rw [holds, Values.text?, hget, Option.any_some, decide_eq_true_iff, ne_eq, ne_eq,
    Option.some.injEq, Value.text.injEq]

/-- A condition on the compiler is one on its family. -/
theorem holds_compiler_iff {family : CompilerFamily} :
    (compiler family).holds resolved = true ↔ resolved.compiler.family = family := by
  rw [holds, decide_eq_true_iff]

/-- A negated condition holds where the condition does not. -/
theorem holds_not_iff {condition : Condition} :
    (not condition).holds resolved = true ↔ ¬ condition.holds resolved = true := by
  rw [holds, Bool.not_eq_true', Bool.not_eq_true]

theorem holds_all_iff {conditions : List Condition} :
    (all conditions).holds resolved = true
      ↔ ∀ condition ∈ conditions, condition.holds resolved = true := by
  rw [holds, allHold_eq_all, List.all_eq_true]

/-- Two conditions side by side. -/
theorem holds_both_iff {first second : Condition} :
    (all [first, second]).holds resolved = true
      ↔ first.holds resolved = true ∧ second.holds resolved = true := by
  rw [holds_all_iff, List.forall_mem_cons, List.forall_mem_singleton]

/-! ## What conditions depend on -/

mutual
/-- **The variants that a condition looks at.** -/
def reads : Condition → List String
  | always => []
  | enabled name => [name]
  | disabled name => [name]
  | equals name _ => [name]
  | isSet name => [name]
  | compiler _ => []
  | not condition => condition.reads
  | all conditions => readsEach conditions
/-- The variants that the conditions of a list look at. -/
def readsEach : List Condition → List String
  | [] => []
  | condition :: rest => condition.reads ++ readsEach rest
end

mutual
/-- **A condition depends on the variants it looks at and the compiler family
only.** -/
theorem holds_of_agree {first second : ResolvedSpec}
    (hfamily : first.compiler.family = second.compiler.family) : ∀ condition : Condition,
    (∀ name ∈ condition.reads, first.values.get? name = second.values.get? name) →
    condition.holds first = condition.holds second
  | always, _ => rfl
  | enabled name, h => by rw [holds, holds, Values.enabled, Values.enabled, h name (.head _)]
  | disabled name, h => by rw [holds, holds, Values.enabled, Values.enabled, h name (.head _)]
  | equals name _, h => by rw [holds, holds, Values.holds, Values.holds, h name (.head _)]
  | isSet name, h => by rw [holds, holds, Values.text?, Values.text?, h name (.head _)]
  | compiler _, _ => by rw [holds, holds, hfamily]
  | not condition, h => by rw [holds, holds, holds_of_agree hfamily condition h]
  | all conditions, h => by rw [holds, holds, allHold_of_agree hfamily conditions h]
/-- Several conditions depend on nothing more than what each of them does. -/
theorem allHold_of_agree {first second : ResolvedSpec}
    (hfamily : first.compiler.family = second.compiler.family) : ∀ conditions : List Condition,
    (∀ name ∈ readsEach conditions, first.values.get? name = second.values.get? name) →
    allHold first conditions = allHold second conditions
  | [], _ => rfl
  | condition :: rest, h => by
    obtain ⟨hcondition, hrest⟩ := List.forall_mem_append.1 h
    rw [allHold, allHold, holds_of_agree hfamily condition hcondition,
      allHold_of_agree hfamily rest hrest]
end

/-- A condition depends on the values and the compiler family only. -/
theorem holds_congr {first second : ResolvedSpec} (hvalues : first.values = second.values)
    (hfamily : first.compiler.family = second.compiler.family) (condition : Condition) :
    condition.holds first = condition.holds second :=
  holds_of_agree hfamily condition fun name _ => by rw [hvalues]

end BuildVariants.Condition
