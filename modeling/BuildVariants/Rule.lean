import BuildVariants.Condition

/-!
# Conflict rules

A rule says that some selections are invalid together: whenever its condition
holds. Rules are kept in the order of their declaration, and the first one
whose condition holds is the one reported.
-/

namespace BuildVariants

/-- A rule against selections that do not go together. -/
structure Rule where
  name : String
  condition : Condition
  message : String
deriving Inhabited

namespace Rule

/-- The conflict that a broken rule makes. -/
def conflict (rule : Rule) : Conflict := ⟨rule.name, rule.condition.render, rule.message⟩

/-- The rules that a resolved spec breaks, in the order of declaration. -/
def broken (rules : List Rule) (resolved : ResolvedSpec) : List Rule :=
  rules.filter (·.condition.holds resolved)

/-- Check a resolved spec against rules. -/
def check (rules : List Rule) (resolved : ResolvedSpec) : Except Conflict Unit :=
  match broken rules resolved with
  | [] => .ok ()
  | rule :: _ => .error rule.conflict

end Rule

end BuildVariants
