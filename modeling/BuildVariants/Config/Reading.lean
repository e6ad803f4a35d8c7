import BuildVariants.Config
import BuildVariants.Toml.Reading

/-!
# Configuration files

A configuration is read from a TOML file with the tables `defaults`, `variants`
and `output`, all of which may be missing. What it does not know is skipped.
A file that is missing or cannot be loaded says nothing, so a slip in one layer
leaves the other layers as they are.
-/

namespace BuildVariants

namespace SpecDefaults

/-- The fields of the fallbacks. -/
def fields : List String := ["compiler", "build_type", "version", "target"]

/-- Take a field into the fallbacks. -/
def setField (name : String) (found : Data) (defaults : SpecDefaults) :
    Except Data.Error SpecDefaults :=
  let read := Data.toOption Data.toText found
  if name = "compiler" then read.map fun compiler => { defaults with compiler }
  else if name = "build_type" then read.map fun buildType => { defaults with buildType }
  else if name = "version" then read.map fun version => { defaults with version }
  else if name = "target" then read.map fun target => { defaults with target }
  else .ok defaults

/-- Read the fallbacks. -/
def ofData (format : Data.Format) : Data → Except Data.Error SpecDefaults :=
  Data.toRecord format "DefaultsConfig" fields setField ⟨none, none, none, none⟩

/-- The fallbacks as data. -/
def toData (defaults : SpecDefaults) : Data :=
  .map [("compiler", .ofOption defaults.compiler), ("build_type", .ofOption defaults.buildType),
    ("version", .ofOption defaults.version), ("target", .ofOption defaults.target)]

end SpecDefaults

namespace OutputFormat

/-- A format is chosen by its name. -/
def ofData (source : Data.Format) : Data → Except Data.Error OutputFormat :=
  Data.toChoice source (all.map (·.name)) ofName?

/-- Take a field of the output settings, of which the format is the only
one. -/
def setField (source : Data.Format) (name : String) (found : Data) (format : OutputFormat) :
    Except Data.Error OutputFormat :=
  if name = "format" then ofData source found else .ok format

/-- Read the output settings. -/
def ofSettings (source : Data.Format) : Data → Except Data.Error OutputFormat :=
  Data.toRecord source "OutputConfig" ["format"] (setField source) .lines

end OutputFormat

namespace Config

/-- The fields of a configuration. -/
def fields : List String := ["defaults", "variants", "output"]

/-- Take a field into a configuration. -/
def setField (source : Data.Format) (name : String) (found : Data) (config : Config) :
    Except Data.Error Config :=
  if name = "defaults" then
    (SpecDefaults.ofData source found).map fun defaults => { config with defaults }
  else if name = "variants" then
    (Data.toNameMap SuppliedValue.ofData found).map fun variants => { config with variants }
  else if name = "output" then
    (OutputFormat.ofSettings source found).map fun format => { config with format }
  else .ok config

/-- Read a configuration. -/
def ofData (source : Data.Format) : Data → Except Data.Error Config :=
  Data.toRecord source "Config" fields (setField source) default

/-- Read a configuration from a TOML text. -/
def ofToml : String → Except Toml.Failure Config := Toml.read (ofData .toml)

/-- A configuration as data. -/
def toData (config : Config) : Data :=
  .map [("defaults", config.defaults.toData),
    ("variants", .map (config.variants.map fun _ value => value.toData).entries),
    ("output", .map [("format", .text config.format.name)])]

end Config

/-! ## Files -/

/-- Why a configuration file is not loaded. -/
inductive ConfigError
  | unreadable (path : String) (failure : ReadFailure)
  | malformed (path : String) (failure : Toml.Failure)

/-- What a user is told first. -/
def ConfigError.message : ConfigError → String
  | unreadable path _ => "failed to read config file: " ++ path
  | malformed path _ => "failed to parse config file: " ++ path

/-- What a user is told next. -/
def ConfigError.cause : ConfigError → String
  | unreadable _ failure => failure.message
  | malformed _ failure => failure.message

namespace Config

/-- The configuration in a file. -/
def load (files : Files) (path : String) : Except ConfigError Config :=
  match files.readText path with
  | .error failure => .error (.unreadable path failure)
  | .ok text => (ofToml text).mapError (.malformed path)

/-- What a file says as a layer: nothing if it is missing or cannot be
loaded. -/
def layer (files : Files) (path : String) : Config :=
  if files.present path then (load files path).toOption.getD default else default

/-- The layers of some files, each laid over the ones before it. -/
def ofFiles (files : Files) (paths : List String) : Config :=
  paths.foldl (fun config path => config.merge (layer files path)) default

/-- The layers of a user and of a project, the project's last. -/
def paths (user : Option String) (project : String) : List String := user.toList ++ [project]

/-! ## Where the files are -/

/-- The directory of configuration files. -/
def directoryName : String := ".legion-config"

/-- The name of a configuration file. -/
def fileName : String := "config.toml"

/-- The directory of a user's configuration. -/
def userDirectory (home : String) : String := joinPath home directoryName

/-- The file of a user's configuration. -/
def userPath (home : String) : String := joinPath (userDirectory home) fileName

/-- The file of a project's configuration. -/
def projectPath (root : String) : String := joinPath (joinPath root directoryName) fileName

end Config

end BuildVariants
