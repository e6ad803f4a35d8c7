import BuildVariants.Spec

/-!
# Conditions

A condition is a predicate on resolved specs, written in the syntax of specs:
`+cuda`, `~cuda`, `network=gasnet`, `gasnet_root!=none`, `%clang`. The same
conditions guard conflict rules and dependencies. They are data, so that the
condition that was checked can be shown.
-/

namespace BuildVariants

/-- A predicate on resolved specs. -/
inductive Condition
  | always
  /-- The variant is on. -/
  | enabled (name : String)
  /-- The variant is not on. -/
  | disabled (name : String)
  /-- The variant holds the text. -/
  | equals (name value : String)
  /-- The variant holds a text other than the one for an unset path. -/
  | isSet (name : String)
  /-- The compiler is of the family. -/
  | compiler (family : CompilerFamily)
  | not (condition : Condition)
  | all (conditions : List Condition)
deriving Inhabited

namespace Condition

mutual
/-- Whether a resolved spec satisfies a condition. -/
def holds (resolved : ResolvedSpec) : Condition → Bool
  | always => true
  | enabled name => resolved.values.enabled name
  | disabled name => !resolved.values.enabled name
  | equals name value => resolved.values.holds name value
  | isSet name => (resolved.values.text? name).any (· ≠ unset)
  | compiler family => resolved.compiler.family = family
  | not condition => !condition.holds resolved
  | all conditions => allHold resolved conditions
/-- Whether a resolved spec satisfies every condition of a list. -/
def allHold (resolved : ResolvedSpec) : List Condition → Bool
  | [] => true
  | condition :: rest => condition.holds resolved && allHold resolved rest
end

theorem allHold_eq_all (resolved : ResolvedSpec) (conditions : List Condition) :
    allHold resolved conditions = conditions.all (·.holds resolved) := by
  induction conditions with
  | nil => rfl
  | cons condition rest ih => rw [allHold, ih, List.all_cons]

mutual
/-- A condition as it is written. A negation is pushed into what it negates
where the syntax has a word for it; several conditions stand side by side. -/
def render : Condition → String
  | always => "always"
  | enabled name => "+" ++ name
  | disabled name => "~" ++ name
  | equals name value => name ++ "=" ++ value
  | isSet name => name ++ "!=" ++ unset
  | compiler family => "%" ++ family.name
  | not (equals name value) => name ++ "!=" ++ value
  | not (enabled name) => "~" ++ name
  | not (disabled name) => "+" ++ name
  | not condition => "not(" ++ condition.render ++ ")"
  | all conditions => " ".intercalate (renderEach conditions)
/-- Each condition of a list as it is written. -/
def renderEach : List Condition → List String
  | [] => []
  | condition :: rest => condition.render :: renderEach rest
end

end Condition

end BuildVariants
