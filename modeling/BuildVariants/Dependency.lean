import BuildVariants.Condition

/-!
# Dependencies

A dependency says what a build needs of another package: a range of versions
and some of that package's own variants. A package lists its dependencies as
rows, each with the condition under which it is needed.
-/

namespace BuildVariants

/-- What a dependency is needed for. -/
inductive DependencyKind
  /-- Only while building. -/
  | build
  /-- It is linked into the result. -/
  | link
deriving DecidableEq, Repr, Inhabited

/-- The name of a kind. -/
def DependencyKind.name : DependencyKind → String
  | build => "build"
  | link => "link"

/-- What is required of one variant of another package. -/
inductive Constraint
  | on (variant : String)
  | off (variant : String)
  | value (variant setting : String)
deriving DecidableEq, Repr, Inhabited

/-- A constraint as it is written behind a package. -/
def Constraint.render : Constraint → String
  | .on variant => "+" ++ variant
  | .off variant => "~" ++ variant
  | .value variant setting => " " ++ variant ++ "=" ++ setting

/-- A constraint as data. -/
def Constraint.toData : Constraint → Data
  | .on variant => .map [("On", .text variant)]
  | .off variant => .map [("Off", .text variant)]
  | .value variant setting => .map [("Value", .ofTexts [variant, setting])]

/-- What is required of another package. -/
structure Dependency where
  name : String
  /-- The range of versions, such as `3.16:` or `10.0:11.9`. -/
  versions : Option String
  constraints : List Constraint
  kind : DependencyKind
deriving DecidableEq, Repr, Inhabited

namespace Dependency

/-! ## Declaring -/

/-- A package that is linked in, with nothing else required of it. -/
def package (name : String) : Dependency := ⟨name, none, [], .link⟩

/-- The dependency with a range of versions. -/
def within (dependency : Dependency) (versions : String) : Dependency :=
  { dependency with versions := some versions }

/-- The dependency with one more constraint. -/
def require (dependency : Dependency) (constraint : Constraint) : Dependency :=
  { dependency with constraints := dependency.constraints ++ [constraint] }

/-- The dependency as one that is needed only while building. -/
def forBuilding (dependency : Dependency) : Dependency := { dependency with kind := .build }

/-! ## Asking -/

/-- Whether a variant of the package is required to be on or off; the first
constraint that says so decides. -/
def requires? (dependency : Dependency) (variant : String) : Option Bool :=
  dependency.constraints.findSome? fun
    | .on name => if name = variant then some true else none
    | .off name => if name = variant then some false else none
    | .value .. => none

/-- A dependency in one line. -/
def render (dependency : Dependency) : String :=
  dependency.name
    ++ (match dependency.versions with
      | some versions => "@" ++ versions
      | none => "")
    ++ String.join (dependency.constraints.map (·.render))

/-- A dependency as data. -/
def toData (dependency : Dependency) : Data :=
  .map [("name", .text dependency.name), ("versions", .ofOption dependency.versions),
    ("variants", .list (dependency.constraints.map (·.toData))),
    ("kind", .text dependency.kind.name)]

end Dependency

/-- A dependency and when it is needed. -/
structure DependencyRow where
  condition : Condition
  dependency : Dependency
deriving Inhabited

/-- The dependencies that a resolved spec needs, in the order of their rows. -/
def DependencyRow.active (rows : List DependencyRow) (resolved : ResolvedSpec) :
    List Dependency :=
  (rows.filter (·.condition.holds resolved)).map (·.dependency)

end BuildVariants
