import BuildVariants.Config.Reading
import BuildVariants.Spec.Reading
import BuildVariants.Spec.Token

/-!
# Assembling a spec

A request comes from up to four layers: tokens on the command line, a spec
file, a configuration, and what holds where none of them speaks. For the
variants the layers count name by name, for everything else field by field. A
spec file may leave out any field, but unlike other records it may not hold a
field that is not known, since that is a slip of the pen.

A compiler or build type in the configuration is only looked at if the spec
file gives none.
-/

namespace BuildVariants

/-- A spec file as it is written. -/
structure SpecFile where
  version : Option String
  compiler : Option Compiler
  buildType : Option BuildType
  target : Option String
  variants : NameMap SuppliedValue
  dependencies : NameMap KnownDependency
deriving DecidableEq

namespace SpecFile

/-- The spec file that says nothing. -/
def empty : SpecFile := ⟨none, none, none, none, .empty, .empty⟩

/-- Take a field into a spec file. -/
def setField (format : Data.Format) (name : String) (found : Data) (file : SpecFile) :
    Except Data.Error SpecFile :=
  if name = "version" then
    (Data.toOption Data.toText found).map fun version => { file with version }
  else if name = "compiler" then
    (Data.toOption Data.toCompiler found).map fun compiler => { file with compiler }
  else if name = "build_type" then
    (Data.toOption (BuildType.ofData format) found).map fun buildType => { file with buildType }
  else if name = "target" then
    (Data.toOption Data.toText found).map fun target => { file with target }
  else if name = "variants" then
    (Data.toNameMap SuppliedValue.ofData found).map fun variants => { file with variants }
  else if name = "dependencies" then
    (Data.toNameMap (KnownDependency.ofData format) found).map fun dependencies =>
      { file with dependencies }
  else .error (.unknownField name Spec.fields)

/-- Read a spec file. -/
def ofData (format : Data.Format) : Data → Except Data.Error SpecFile :=
  Data.toRecord format "SpecFile" Spec.fields (setField format) empty

/-- Read a spec file from its text. -/
def ofToml : String → Except Toml.Failure SpecFile := Toml.read (ofData .toml)

end SpecFile

/-- Read a spec from a TOML text. -/
def Spec.ofToml : String → Except Toml.Failure Spec := Toml.read (Spec.ofData .toml)

/-- Why no spec can be assembled. -/
inductive AssemblyError
  | unreadable (path : String) (failure : ReadFailure)
  | malformed (path : String) (failure : Toml.Failure)
  /-- The configuration's compiler is none. -/
  | compiler (error : CompilerError)
  /-- The configuration's build type is none. -/
  | buildType (name : String)
  | token (error : TokenError)

/-- What a user is told first. -/
def AssemblyError.message : AssemblyError → String
  | unreadable path _ => "failed to read spec file: " ++ path
  | malformed path _ =>
    "failed to parse spec file: " ++ path ++ "\nhelp: Spec files are TOML with `version`, "
      ++ "`compiler`, `build_type` and a `[variants]` table"
  | compiler error => "invalid compiler in config: " ++ error.message
  | buildType name => "invalid build type in config: " ++ BuildType.unknownMessage name
  | token error =>
    error.message ++ "\nhelp: Pass a spec file, or variants with `-v +name` / `-v name=value`"

/-- What a user is told next, if something else is behind the failure. -/
def AssemblyError.cause? : AssemblyError → Option String
  | unreadable _ failure => some failure.message
  | malformed _ failure => some failure.message
  | compiler _ | buildType _ | token _ => none

namespace SpecFile

/-- The spec file at a path. -/
def load (files : Files) (path : String) : Except AssemblyError SpecFile :=
  match files.readText path with
  | .error failure => .error (.unreadable path failure)
  | .ok text => (ofToml text).mapError (.malformed path)

/-- The compiler of a spec file, or else of a configuration, or else GCC. -/
def chooseCompiler (file : SpecFile) (config : Config) : Except AssemblyError Compiler :=
  match file.compiler, config.defaults.compiler with
  | some compiler, _ => .ok compiler
  | none, some text => (Compiler.parse text).mapError .compiler
  | none, none => .ok .gcc

/-- The build type of a spec file, or else of a configuration, or else an
optimised one with debug information. -/
def chooseBuildType (file : SpecFile) (config : Config) : Except AssemblyError BuildType :=
  match file.buildType, config.defaults.buildType with
  | some buildType, _ => .ok buildType
  | none, some name =>
    match BuildType.ofName? name with
    | some buildType => .ok buildType
    | none => .error (.buildType name)
  | none, none => .ok .relWithDebInfo

/-- The spec of a spec file over a configuration. -/
def toSpec (file : SpecFile) (config : Config) : Except AssemblyError Spec :=
  match file.chooseCompiler config with
  | .error error => .error error
  | .ok compiler =>
    match file.chooseBuildType config with
    | .error error => .error error
    | .ok buildType =>
      .ok
        { version := (file.version.or config.defaults.version).getD Spec.defaultVersion
          compiler
          buildType
          target := file.target.or config.defaults.target
          variants := config.variants.overlay file.variants
          dependencies := file.dependencies }

end SpecFile

/-- Assemble the spec of a request from its tokens, its spec file, if any, and
a configuration. -/
def Spec.assemble (files : Files) (path : Option String) (tokens : List String)
    (config : Config) : Except AssemblyError Spec :=
  match path.elim (.ok SpecFile.empty) (SpecFile.load files) with
  | .error error => .error error
  | .ok file =>
    match file.toSpec config with
    | .error error => .error error
    | .ok spec => (spec.assignTokens tokens).mapError .token

end BuildVariants
