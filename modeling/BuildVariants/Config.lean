import BuildVariants.Spec

/-!
# Configurations

A configuration holds preferences that sit underneath every request: fallbacks
for what a spec file leaves out, values for some variants, and the format of
the output. Configurations are laid one over the other; where the upper one
says something, it counts.
-/

namespace BuildVariants

/-- Fallbacks for what a spec file leaves out, as they are written. -/
structure SpecDefaults where
  compiler : Option String
  buildType : Option String
  version : Option String
  target : Option String
deriving DecidableEq, Repr, Inhabited

/-- How a build plan is printed. -/
inductive OutputFormat
  /-- One argument on each line. -/
  | lines
  /-- The whole plan as JSON. -/
  | json
deriving DecidableEq, Repr, Inhabited

namespace OutputFormat

/-- The name of a format. -/
def name : OutputFormat → String
  | lines => "lines"
  | json => "json"

/-- Every format. -/
def all : List OutputFormat := [lines, json]

/-- The format of a name. -/
def ofName? (name : String) : Option OutputFormat := all.find? (·.name == name)

/-- A format is the one of its name. -/
theorem ofName?_eq_some_iff {name : String} {format : OutputFormat} :
    ofName? name = some format ↔ format.name = name := by
  constructor
  · intro h
    have hname := List.find?_some (show all.find? (·.name == name) = some format from h)
    exact beq_iff_eq.1 hname
  · rintro rfl
    cases format <;> rfl

end OutputFormat

/-- A configuration. -/
structure Config where
  defaults : SpecDefaults
  variants : NameMap SuppliedValue
  format : OutputFormat
deriving DecidableEq

namespace Config

/-- The configuration that says nothing. -/
def default : Config := ⟨⟨none, none, none, none⟩, .empty, .lines⟩

instance : Inhabited Config := ⟨default⟩

/-- Two configurations laid one over the other. Variants count one by one. The
format of lines is also what a configuration has that does not speak of it, so
only another format counts. -/
def merge (lower upper : Config) : Config :=
  { defaults :=
      { compiler := upper.defaults.compiler.or lower.defaults.compiler
        buildType := upper.defaults.buildType.or lower.defaults.buildType
        version := upper.defaults.version.or lower.defaults.version
        target := upper.defaults.target.or lower.defaults.target }
    variants := lower.variants.overlay upper.variants
    format := if upper.format = .lines then lower.format else upper.format }

end Config

end BuildVariants
