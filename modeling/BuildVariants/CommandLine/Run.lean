import BuildVariants.CommandLine.Manual
import BuildVariants.CommandLine.Outcome
import BuildVariants.Environment
import BuildVariants.Json.Printer
import BuildVariants.Legion

/-!
# Running commands

A command is a function of its arguments and of what it finds around it
(`Surroundings`); what it comes to is an `Outcome`. The commands `flags`,
`check` and `deps` work on a spec that is assembled from the configuration
files, a spec file and tokens, and they put it to the same planner. They
print only when nothing can fail any more.

The list of all conditional dependencies, the list of variants and the
completions say the same whatever is requested, so they look at no file.
-/

namespace BuildVariants.CommandLine

/-- What a command finds around it. -/
structure Surroundings where
  files : Files
  /-- The user's home directory, if there is one. -/
  home : Option String
  /-- The directory that the command is run in. -/
  directory : String
  /-- The configuration file that the environment names. -/
  environment : Option String

/-! ## Requests -/

/-- What the commands on a build work on. -/
structure Request where
  config : Config
  spec : Spec

/-- The configuration files to load: the one that the command line or the
environment names, or else the user's own, and then the project's. -/
def configPaths (surroundings : Surroundings) (named : Option String) : List String :=
  Config.paths (named.or (surroundings.home.map Config.userPath))
    (Config.projectPath surroundings.directory)

/-- A warning for each configuration file that is there but cannot be loaded. -/
def configWarnings (files : Files) (paths : List String) : List Warning :=
  paths.filterMap fun path =>
    if files.present path then
      match Config.load files path with
      | .ok _ => none
      | .error error => some (.configNotLoaded path error)
    else none

/-- Assemble the request of a command line. -/
def request (surroundings : Surroundings) (named : Option String) (arguments : SpecArguments) :
    Except Failure Request :=
  let config := Config.ofFiles surroundings.files (configPaths surroundings named)
  match Spec.assemble surroundings.files arguments.path arguments.tokens config with
  | .ok spec => .ok ⟨config, spec⟩
  | .error error => .error (.assembly error)

/-- Work on the request of a command line, after the warnings about its
configuration files. `work` gives the text to print with warnings of its own. -/
def onRequest (surroundings : Surroundings) (named : Option String) (arguments : SpecArguments)
    (work : Request → Except SelectionError (String × List Warning)) : Outcome :=
  let warnings := configWarnings surroundings.files (configPaths surroundings named)
  match request surroundings named arguments with
  | .error failure => .failed warnings failure
  | .ok request =>
    match work request with
    | .error error => .failed warnings (.selection error)
    | .ok (output, more) => .success (warnings ++ more) output

/-! ## Commands -/

/-- A plan as it is printed: as JSON, or its flags line by line, and then, if
that is asked for, after the commands that set the environment. -/
def printPlan (format : OutputFormat) (exportEnv : Bool) (plan : BuildPlan) :
    String × List Warning :=
  match format with
  | .json => (Json.pretty plan.toData ++ "\n", [])
  | .lines =>
    if exportEnv then (unlines (plan.exports ++ plan.flags), [])
    else
      (unlines plan.flags,
        if plan.env.isEmpty then [] else [.environmentNeeded])

/-- Print the plan of a request, as JSON if the command line or the configuration
asks for that. -/
def flags (files : Files) (json exportEnv : Bool) (request : Request) :
    Except SelectionError (String × List Warning) :=
  let format := if json then .json else request.config.format
  (Legion.package.planner.plan files request.spec).map (printPlan format exportEnv)

/-- Say that a request has a plan. -/
def check (files : Files) (request : Request) : Except SelectionError (String × List Warning) :=
  (Legion.package.planner.plan files request.spec).map fun _ =>
    ("ok: " ++ request.spec.render ++ "\n", [])

/-- List the dependencies of a request. -/
def deps (files : Files) (request : Request) : Except SelectionError (String × List Warning) :=
  let planner := Legion.package.planner
  (planner.check files request.spec).map fun resolved =>
    (unlines ((planner.active resolved).map (·.listing)), [])

/-- List every dependency with its condition. -/
def allDeps : String := unlines (Legion.dependencies.map (·.listing))

/-- List the variants. -/
def variants (json : Bool) : String :=
  if json then Json.pretty Legion.schema.toData ++ "\n" else unlines Legion.schema.listing

/-! ## Command lines -/

/-- Run a command. -/
def perform (surroundings : Surroundings) (invocation : Invocation) : Outcome :=
  let files := surroundings.files
  match invocation.command with
  | .flags arguments json exportEnv =>
    onRequest surroundings invocation.config arguments (flags files json exportEnv)
  | .check arguments => onRequest surroundings invocation.config arguments (check files)
  | .deps arguments false => onRequest surroundings invocation.config arguments (deps files)
  | .deps _ true => .success [] allDeps
  | .variants json => .success [] (variants json)
  | .completions shell => .success [] shell.script

/-- Run a command line. -/
def run (surroundings : Surroundings) (arguments : List String) : Outcome :=
  match parse surroundings.environment arguments with
  | .ok invocation => perform surroundings invocation
  | .error .usage => .failed [] .usage
  | .error .help => .success [] helpText
  | .error .version => .success [] versionText

/-! ## What a command line looks at -/

/-- The files that the request of a command line is assembled from. -/
def sourcePaths (surroundings : Surroundings) (arguments : List String) : List String :=
  match parse surroundings.environment arguments with
  | .error _ => []
  | .ok invocation =>
    match invocation.command.spec? with
    | none => []
    | some spec => configPaths surroundings invocation.config ++ spec.path.toList

/-- The texts assigned to variants by a command line, once its request can be
assembled. A validator looks at no other path than these. -/
def assignedTexts (surroundings : Surroundings) (arguments : List String) : List String :=
  match parse surroundings.environment arguments with
  | .error _ => []
  | .ok invocation =>
    match invocation.command.spec?.map (request surroundings invocation.config) with
    | some (.ok request) =>
      request.spec.variants.entries.filterMap fun entry =>
        match entry.2 with
        | .text text => some text
        | .bool _ | .int _ => none
    | _ => []

end BuildVariants.CommandLine
