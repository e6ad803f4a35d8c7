/-!
# Build types

The four build types of a CMake project, by their exact names.
-/

namespace BuildVariants

/-- How a project is compiled. -/
inductive BuildType
  | debug
  | release
  | relWithDebInfo
  | minSizeRel
deriving DecidableEq, Repr, Inhabited

namespace BuildType

/-- The name of a build type. -/
def name : BuildType → String
  | debug => "Debug"
  | release => "Release"
  | relWithDebInfo => "RelWithDebInfo"
  | minSizeRel => "MinSizeRel"

/-- Every build type. -/
def all : List BuildType := [debug, release, relWithDebInfo, minSizeRel]

/-- The build type of a name, which must be spelled exactly. -/
def ofName? (name : String) : Option BuildType := all.find? (·.name == name)

theorem ofName?_name (type : BuildType) : ofName? type.name = some type := by
  cases type <;> rfl

/-- What a user is told about a name that is no build type. -/
def unknownMessage (name : String) : String :=
  "invalid build type `" ++ name ++ "`: expected Debug, Release, RelWithDebInfo or MinSizeRel"

end BuildType

end BuildVariants
