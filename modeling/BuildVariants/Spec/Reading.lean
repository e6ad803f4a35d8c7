import BuildVariants.Spec

/-!
# Specs as data

A spec is read from a record all of whose fields may be missing, and written
as one in which every field is present but a target that is not set. Fields it
does not know are skipped.
-/

namespace BuildVariants

namespace KnownDependency

/-- The fields of a known dependency. -/
def fields : List String := ["version", "prefix", "cxx"]

/-- Take a field into a known dependency. -/
def setField (name : String) (found : Data) (dependency : KnownDependency) :
    Except Data.Error KnownDependency :=
  if name = "version" then
    (Data.toOption Data.toText found).map fun version => { dependency with version }
  else if name = "prefix" then
    (Data.toOption Data.toPath found).map fun location => { dependency with location }
  else if name = "cxx" then
    (Data.toOption Data.toPath found).map fun cxx => { dependency with cxx }
  else .ok dependency

/-- Read a known dependency. -/
def ofData (format : Data.Format) : Data → Except Data.Error KnownDependency :=
  Data.toRecord format "ResolvedDependency" fields setField unknown

/-- A known dependency as data. -/
def toData (dependency : KnownDependency) : Data :=
  .map [("version", .ofOption dependency.version), ("prefix", .ofOption dependency.location),
    ("cxx", .ofOption dependency.cxx)]

end KnownDependency

/-- A build type is chosen by its name. -/
def BuildType.ofData (format : Data.Format) : Data → Except Data.Error BuildType :=
  Data.toChoice format (BuildType.all.map (·.name)) BuildType.ofName?

namespace Spec

/-- The fields of a spec. -/
def fields : List String :=
  ["version", "compiler", "build_type", "target", "variants", "dependencies"]

/-- Take a field into a spec. -/
def setField (format : Data.Format) (name : String) (found : Data) (spec : Spec) :
    Except Data.Error Spec :=
  if name = "version" then found.toText.map fun version => { spec with version }
  else if name = "compiler" then found.toCompiler.map fun compiler => { spec with compiler }
  else if name = "build_type" then
    (BuildType.ofData format found).map fun buildType => { spec with buildType }
  else if name = "target" then
    (Data.toOption Data.toText found).map fun target => { spec with target }
  else if name = "variants" then
    (Data.toNameMap SuppliedValue.ofData found).map fun variants => { spec with variants }
  else if name = "dependencies" then
    (Data.toNameMap (KnownDependency.ofData format) found).map fun dependencies =>
      { spec with dependencies }
  else .ok spec

/-- Read a spec. -/
def ofData (format : Data.Format) : Data → Except Data.Error Spec :=
  Data.toRecord format "Spec" fields (setField format) default

/-- A spec as data. -/
def toData (spec : Spec) : Data :=
  .map ([("version", .text spec.version), ("compiler", .text spec.compiler.render),
      ("build_type", .text spec.buildType.name)]
    ++ (match spec.target with
      | some target => [("target", .text target)]
      | none => [])
    ++ [("variants", .map (spec.variants.map fun _ value => value.toData).entries),
      ("dependencies", .map (spec.dependencies.map fun _ known => known.toData).entries)])

end Spec

end BuildVariants
