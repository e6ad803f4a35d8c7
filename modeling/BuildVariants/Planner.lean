import BuildVariants.Rule
import BuildVariants.BuildPlan

/-!
# Planners

A planner turns specs into build plans by a package's schema and rules, and,
where they are given, its list of versions and its rows of dependencies.

A spec passes a gate before anything is derived from it. The version is
checked first, then the shape of the assigned values, then the rules on the
values with the defaults filled in, and last the validators – so what a
directory holds matters only for a selection that is otherwise in order.
-/

namespace BuildVariants

/-- What specs are turned into plans by. -/
structure Planner where
  schema : Schema
  rules : List Rule
  /-- The rows to report active dependencies from. -/
  dependencies : Option (List DependencyRow)
  /-- The versions to accept; without a list every version is. -/
  versions : Option (List String)

namespace Planner

/-- A planner by schema and rules alone. -/
def bare (schema : Schema) (rules : List Rule) : Planner := ⟨schema, rules, none, none⟩

/-- The planner that reports dependencies. -/
def reporting (planner : Planner) (rows : List DependencyRow) : Planner :=
  { planner with dependencies := some rows }

/-- The planner that accepts some versions only. -/
def accepting (planner : Planner) (versions : List String) : Planner :=
  { planner with versions := some versions }

/-- Check the version of a spec. -/
def checkVersion (planner : Planner) (spec : Spec) : Except ValidationError Unit :=
  match planner.versions with
  | none => .ok ()
  | some versions =>
    if versions.contains spec.version then .ok ()
    else .error (.invalidDomain "version" spec.version versions)

/-- Let a spec through the gate: version, shapes, rules, validators. -/
def check (planner : Planner) (files : Files) (spec : Spec) :
    Except SelectionError ResolvedSpec :=
  match planner.checkVersion spec with
  | .error error => .error (.validation error)
  | .ok () =>
    match planner.schema.bind spec.variants with
    | .error error => .error (.validation error)
    | .ok values =>
      match Rule.check planner.rules ⟨spec, values⟩ with
      | .error conflict => .error (.conflict conflict)
      | .ok () =>
        match planner.schema.verify files values with
        | .error error => .error (.validation error)
        | .ok () => .ok ⟨spec, values⟩

/-- The dependencies to report for a resolved spec. -/
def active (planner : Planner) (resolved : ResolvedSpec) : List Dependency :=
  match planner.dependencies with
  | some rows => DependencyRow.active rows resolved
  | none => []

/-- **The plan of a spec.** -/
def plan (planner : Planner) (files : Files) (spec : Spec) :
    Except SelectionError BuildPlan :=
  match planner.check files spec with
  | .error error => .error error
  | .ok resolved =>
    match Derived.ofResolved resolved with
    | .error error => .error (.validation error)
    | .ok derived => .ok (.of resolved derived (planner.active resolved))

end Planner

end BuildVariants
