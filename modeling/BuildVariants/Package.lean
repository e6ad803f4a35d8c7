import BuildVariants.Planner

/-!
# Packages

A package brings together what is known of something to build: its versions,
its variants, the rules against selections that do not go together, and its
dependencies. Its planner uses all of it.
-/

namespace BuildVariants

/-- A package: the versions, variants, rules and dependencies of something to
build. -/
structure Package where
  versions : List String
  schema : Schema
  rules : List Rule
  dependencies : List DependencyRow

/-- The planner of a package, with its dependencies and versions. -/
def Package.planner (package : Package) : Planner :=
  Planner.bare package.schema package.rules
    |>.reporting package.dependencies
    |>.accepting package.versions

end BuildVariants
