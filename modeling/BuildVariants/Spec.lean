import BuildVariants.BuildType
import BuildVariants.Compiler
import BuildVariants.Schema

/-!
# Specs

A spec is one build request as it is handed over: the version of the package,
the compiler, the build type, the variants that were chosen and what is
already known about dependencies. It is plain data; nothing in it has been
checked. Resolving it against a schema gives a `ResolvedSpec`, in which every
variant has a value.
-/

namespace BuildVariants

/-- What is known about a dependency that has been settled. -/
structure KnownDependency where
  version : Option String
  /-- Where it is installed. -/
  location : Option String
  /-- The C++ compiler it was built with. -/
  cxx : Option String
deriving DecidableEq, Repr, Inhabited

/-- A dependency of which nothing is known. -/
def KnownDependency.unknown : KnownDependency := ⟨none, none, none⟩

/-- One build request. -/
structure Spec where
  version : String
  compiler : Compiler
  buildType : BuildType
  /-- The name of the host's architecture. -/
  target : Option String
  variants : NameMap SuppliedValue
  dependencies : NameMap KnownDependency
deriving DecidableEq

namespace Spec

/-- The version of a spec that names none. -/
def defaultVersion : String := "stable"

/-- The spec that says nothing. -/
def default : Spec :=
  ⟨defaultVersion, .gcc, .relWithDebInfo, none, .empty, .empty⟩

instance : Inhabited Spec := ⟨default⟩

/-- The spec of a version that says nothing else. -/
def ofVersion (version : String) : Spec := { default with version }

/-- The spec with a variant assigned. -/
def assign (spec : Spec) (name : String) (value : SuppliedValue) : Spec :=
  { spec with variants := spec.variants.insert name value }

/-- The spec with a dependency known. -/
def addDependency (spec : Spec) (name : String) (dependency : KnownDependency) : Spec :=
  { spec with dependencies := spec.dependencies.insert name dependency }

/-! ## Writing -/

/-- An assignment as it is written behind a spec: `+name` and `~name` for
truth values, `name=value` for the others. -/
def renderAssignment (name : String) : SuppliedValue → String
  | .bool true => "+" ++ name
  | .bool false => "~" ++ name
  | value => name ++ "=" ++ value.render

/-- The assignments of a spec as they are written behind it. -/
def renderVariants (spec : Spec) : List String :=
  spec.variants.entries.map fun entry => renderAssignment entry.1 entry.2

/-- A spec in one line: version, compiler, build type, variants in the order of
their names, and target. -/
def render (spec : Spec) : String :=
  "legion@" ++ spec.version ++ "%" ++ spec.compiler.render
    ++ " build_type=" ++ spec.buildType.name
    ++ String.join (spec.renderVariants.map (" " ++ ·))
    ++ (match spec.target with
      | some target => " target=" ++ target
      | none => "")

end Spec

/-! ## Resolved specs -/

/-- A spec with a value for every variant. -/
structure ResolvedSpec where
  spec : Spec
  values : Values

namespace ResolvedSpec

/-- The compiler of the build. -/
def compiler (resolved : ResolvedSpec) : Compiler := resolved.spec.compiler

/-- Whether a variant is on. -/
def enabled (resolved : ResolvedSpec) (name : String) : Bool := resolved.values.enabled name

end ResolvedSpec

/-- Resolve a spec against a schema, with the validators run. -/
def Spec.resolve (spec : Spec) (schema : Schema) (files : Files) :
    Except ValidationError ResolvedSpec :=
  (schema.resolve files spec.variants).map (⟨spec, ·⟩)

end BuildVariants
