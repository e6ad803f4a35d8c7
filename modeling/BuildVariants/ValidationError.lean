import BuildVariants.Diagnostic

/-!
# What can be wrong with a selection

A selection fails in one of two ways: a single value is outside of what its
variant accepts (`ValidationError`), or several values do not go together
(`Conflict`). Either is a cause with the facts it rests on; the words for it
are in `message` and `diagnostic`.
-/

namespace BuildVariants

/-- One value does not satisfy its variant. Each cause keeps the variant's
name and the text of the rejected value. -/
inductive ValidationError
  /-- No variant has this name. -/
  | unknownVariant (variant value : String)
  /-- The value is not in the variant's domain. -/
  | invalidDomain (variant value : String) (allowed : List String)
  /-- The value names a place that does not do. -/
  | invalidPath (variant value reason : String)
  /-- The variant needs to know more of a dependency than is known. -/
  | unresolvedDependency (variant value dependency missing : String)
deriving DecidableEq, Repr

namespace ValidationError

/-- The variant whose value was rejected. -/
def variant : ValidationError → String
  | unknownVariant variant _ | invalidDomain variant _ _ | invalidPath variant _ _
  | unresolvedDependency variant _ _ _ => variant

/-- The rejected value. -/
def value : ValidationError → String
  | unknownVariant _ value | invalidDomain _ value _ | invalidPath _ value _
  | unresolvedDependency _ value _ _ => value

/-- What a user is told in one line. -/
def message : ValidationError → String
  | unknownVariant variant _ => "unknown variant `" ++ variant ++ "`"
  | invalidDomain variant value _ =>
    "invalid value `" ++ value ++ "` for variant `" ++ variant ++ "`"
  | invalidPath variant value reason => variant ++ ": `" ++ value ++ "` -- " ++ reason
  | unresolvedDependency variant _ dependency missing =>
    "`+" ++ variant ++ "` requires a resolved `" ++ dependency ++ "` providing " ++ missing

/-- The stable code of each cause. -/
def code : ValidationError → String
  | unknownVariant .. => "legion::variant::unknown"
  | invalidDomain .. => "legion::variant::invalid_domain"
  | invalidPath .. => "legion::variant::invalid_path"
  | unresolvedDependency .. => "legion::variant::unresolved_dependency"

/-- The full report. -/
def diagnostic (error : ValidationError) : Diagnostic :=
  { message := error.message
    notes := match error with
      | unknownVariant variant _ => ["`" ++ variant ++ "` is not a Legion variant"]
      | invalidDomain _ _ allowed =>
        if allowed = [] then [] else ["allowed values: " ++ ", ".intercalate allowed]
      | invalidPath .. | unresolvedDependency .. => []
    helps := match error with
      | unknownVariant .. => ["Run `legion-config variants` to list the known variants"]
      | invalidDomain variant _ _ => ["Pick one of the declared values for `" ++ variant ++ "`"]
      | invalidPath variant _ _ =>
        ["Point `" ++ variant ++ "` at an existing installation prefix",
          "Set `" ++ variant ++ "=none` to use the embedded build"]
      | unresolvedDependency _ _ dependency _ =>
        ["Add a `[dependencies." ++ dependency ++ "]` entry to the spec file"] }

end ValidationError

/-- Several values do not go together. -/
structure Conflict where
  /-- The name of the rule that says so. -/
  rule : String
  /-- The rule's condition, as it is written. -/
  condition : String
  message : String
deriving DecidableEq, Repr

namespace Conflict

/-- The stable code of a conflict. -/
def code : String := "legion::conflict"

/-- The full report. -/
def diagnostic (conflict : Conflict) : Diagnostic :=
  { message := "conflicting variants: " ++ conflict.message
    notes := ["rule `" ++ conflict.rule ++ "` matched: " ++ conflict.condition]
    helps := ["Adjust the selection so the rule no longer matches"] }

end Conflict

/-- Why a selection has no plan. -/
inductive SelectionError
  | validation (error : ValidationError)
  | conflict (found : Conflict)
deriving DecidableEq, Repr

/-- The full report. -/
def SelectionError.diagnostic : SelectionError → Diagnostic
  | .validation error => error.diagnostic
  | .conflict found => found.diagnostic

end BuildVariants
