/-!
# Command-line arguments

A command line names a command, with options before and after it. Options that
every command shares can stand in either place; where both places set the
configuration file, the one after the command counts, and both count before the
environment.

Arguments are taken one after the other, and the first thing that settles the
outcome does: an argument that does not fit, or a request for help or for the
version. What an option is given as its value is looked at only when the next
argument is taken, so an empty path is noticed then. A value may not start with
a dash unless it is attached to its option; after `--` there are no more
options. No option but a variant may be repeated in one place.
-/

namespace BuildVariants.CommandLine

/-! ## What a command line says -/

/-- A shell to write completions for. -/
inductive CompletionShell
  | bash
  | elvish
  | fish
  | powershell
  | zsh
deriving DecidableEq, Repr

namespace CompletionShell

/-- The name of a shell. -/
def name : CompletionShell → String
  | bash => "bash"
  | elvish => "elvish"
  | fish => "fish"
  | powershell => "powershell"
  | zsh => "zsh"

/-- The shell of a name. -/
def ofName? (name : String) : Option CompletionShell :=
  [bash, elvish, fish, powershell, zsh].find? (·.name == name)

end CompletionShell

/-- How a build is asked for. -/
structure SpecArguments where
  /-- The spec file. -/
  path : Option String
  /-- The variant tokens, in order. -/
  tokens : List String
deriving DecidableEq, Repr

/-- A command with its own options. -/
inductive Command
  | flags (spec : SpecArguments) (json exportEnv : Bool)
  | check (spec : SpecArguments)
  | variants (json : Bool)
  | deps (spec : SpecArguments) (all : Bool)
  | completions (shell : CompletionShell)
deriving DecidableEq, Repr

/-- The build that a command looks at, if it looks at one. -/
def Command.spec? : Command → Option SpecArguments
  | .flags spec _ _ | .check spec | .deps spec false => some spec
  | .deps _ true | .variants _ | .completions _ => none

/-- A command with the options that every command shares. -/
structure Invocation where
  command : Command
  verbose : Bool
  noColor : Bool
  /-- The configuration file to use in the stead of the user's. -/
  config : Option String
deriving DecidableEq, Repr

/-- What settles the outcome before a command is run. -/
inductive Stop
  /-- The arguments do not fit. -/
  | usage
  | help
  | version
deriving DecidableEq, Repr

/-! ## Options and places -/

/-- An option that is on when it is given. -/
inductive Switch
  | verbose
  | noColor
  | json
  | exportEnv
  | all
deriving DecidableEq, Repr

/-- An option that takes a value. -/
inductive Setting
  /-- The configuration file; not empty. -/
  | config
  /-- A variant token; it may be given again. -/
  | variant
deriving DecidableEq, Repr

/-- The name of a command. -/
inductive CommandName
  | flags
  | check
  | variants
  | deps
  | completions
deriving DecidableEq, Repr

namespace CommandName

/-- A name as it is written. -/
def text : CommandName → String
  | flags => "flags"
  | check => "check"
  | variants => "variants"
  | deps => "deps"
  | completions => "completions"

/-- Every command. -/
def all : List CommandName := [flags, check, variants, deps, completions]

/-- The command of a name. -/
def ofText? (text : String) : Option CommandName := all.find? (·.text == text)

end CommandName

/-- Where an argument stands: before the command, or after it. -/
inductive Place
  | before
  | after (command : CommandName)
deriving DecidableEq, Repr

namespace Place

/-- Whether a build can be asked for in this place. -/
def takesSpec : Place → Bool
  | after .flags | after .check | after .deps => true
  | _ => false

/-- Whether an argument that is no option can stand in this place. -/
def takesOperand : Place → Bool
  | after .completions => true
  | place => place.takesSpec

/-- The switch of a name in this place. -/
def switch? (place : Place) (name : String) : Option Switch :=
  if name = "verbose" then some .verbose
  else if name = "no-color" then some .noColor
  else match place with
    | .after .flags =>
      if name = "json" then some .json
      else if name = "export-env" then some .exportEnv
      else none
    | .after .variants => if name = "json" then some .json else none
    | .after .deps => if name = "all" then some .all else none
    | _ => none

/-- The setting of a name in this place. -/
def setting? (place : Place) (name : String) : Option Setting :=
  if name = "config" then some .config
  else if name = "variant" ∧ place.takesSpec then some .variant
  else none

end Place

/-! ## Taking arguments -/

/-- What was given last and has not been looked at. -/
inductive Pending
  | nothing
  /-- A setting that waits for its value. -/
  | awaiting (setting : Setting)
  | setting (setting : Setting) (value : String)
  | operand (value : String)
deriving DecidableEq, Repr

/-- What the arguments of one place have said so far. -/
structure Given where
  switches : List Switch
  config : Option String
  tokens : List String
  operand : Option String
  pending : Pending
  /-- Whether `--` was given. -/
  operandsOnly : Bool
deriving DecidableEq, Repr

namespace Given

/-- Nothing has been said. -/
def start : Given := ⟨[], none, [], none, .nothing, false⟩

/-- Take a setting with its value. -/
def set (given : Given) : Setting → String → Except Stop Given
  | .config, path =>
    if given.config.isSome ∨ path.isEmpty then .error .usage
    else .ok { given with config := some path }
  | .variant, token => .ok { given with tokens := given.tokens ++ [token] }

/-- Take an argument that is no option. A spec file has a path that is not
empty, and a shell is one of those known. -/
def setOperand (given : Given) (place : Place) (value : String) : Except Stop Given :=
  let fits : Bool := match place with
    | .after .completions => (CompletionShell.ofName? value).isSome
    | place => place.takesSpec && !value.isEmpty
  if fits ∧ given.operand.isNone then .ok { given with operand := some value }
  else .error .usage

/-- Look at what was given last. -/
def settle (given : Given) (place : Place) : Except Stop Given :=
  let settled := { given with pending := .nothing }
  match given.pending with
  | .nothing => .ok given
  | .awaiting _ => .error .usage
  | .setting setting value => settled.set setting value
  | .operand value => settled.setOperand place value

/-- Take a switch, once. -/
def flip (given : Given) (switch : Switch) : Except Stop Given :=
  if given.switches.contains switch then .error .usage
  else .ok { given with switches := given.switches ++ [switch] }

/-- Take an argument that is no option, to be looked at later. -/
def takeOperand (given : Given) (place : Place) (value : String) : Except Stop Given := do
  let given ← given.settle place
  if place.takesOperand ∧ given.operand.isNone then
    .ok { given with pending := .operand value }
  else .error .usage

/-- Take a setting with an attached value, or one that waits for its value. -/
def takeSetting (given : Given) (place : Place) (setting : Setting) (attached : Option String) :
    Except Stop Given := do
  let given ← given.settle place
  match attached with
  | some value => given.set setting value
  | none => .ok { given with pending := .awaiting setting }

/-- Take an option by its long name, possibly with an attached value. -/
def takeLong (given : Given) (place : Place) (name : String) (attached : Option String) :
    Except Stop Given :=
  match place.setting? name with
  | some setting => given.takeSetting place setting attached
  | none =>
    if attached.isSome then .error .usage
    else if name = "help" then do
      let _ ← given.settle place
      .error .help
    else if name = "version" ∧ place = .before then do
      let _ ← given.settle place
      .error .version
    else match place.switch? name with
      | some switch => do
        let given ← given.settle place
        given.flip switch
      | none => .error .usage

/-- Take the characters after a single dash. Only `v` takes a value, which may
follow an equals sign. -/
def takeShort (given : Given) (place : Place) : List Char → Except Stop Given
  | 'v' :: rest =>
    if place.takesSpec then
      let attached := match rest with
        | [] => none
        | '=' :: value => some (String.ofList value)
        | value => some (String.ofList value)
      given.takeSetting place .variant attached
    else .error .usage
  | 'h' :: _ => do
    let _ ← given.settle place
    .error .help
  | 'V' :: _ =>
    if place = .before then do
      let _ ← given.settle place
      .error .version
    else .error .usage
  | _ => .error .usage

/-- A long option's name and the value attached to it by an equals sign. -/
def splitLong (text : List Char) : String × Option String :=
  let name := text.takeWhile (· ≠ '=')
  match text.drop name.length with
  | [] => (.ofList name, none)
  | _ :: value => (.ofList name, some (.ofList value))

/-- Take one argument. -/
def take (given : Given) (place : Place) (argument : String) : Except Stop Given :=
  if given.operandsOnly then given.takeOperand place argument
  else match given.pending, argument.toList with
    | .awaiting _, '-' :: _ :: _ => .error .usage
    | .awaiting setting, _ => .ok { given with pending := .setting setting argument }
    | _, ['-', '-'] => .ok { given with operandsOnly := true }
    | _, '-' :: '-' :: text =>
      let (name, attached) := splitLong text
      given.takeLong place name attached
    | _, '-' :: first :: rest => given.takeShort place (first :: rest)
    | _, _ => given.takeOperand place argument

/-- Whether the next argument can be the name of a command. -/
def atCommand (given : Given) : Bool :=
  !given.operandsOnly && match given.pending with
    | .awaiting _ => false
    | _ => true

/-- Look at what is left when there are no more arguments. A configuration
file that is not given is taken from the environment, where it may not be
empty. -/
def finish (given : Given) (place : Place) (environment : Option String) :
    Except Stop Given := do
  let given ← given.settle place
  if given.config.isNone ∧ environment = some "" then .error .usage else .ok given

end Given

/-! ## Command lines -/

/-- The command that the arguments after its name make. -/
def commandOf (name : CommandName) (given : Given) : Except Stop Command :=
  let spec : SpecArguments := ⟨given.operand, given.tokens⟩
  let on (switch : Switch) := given.switches.contains switch
  match name with
  | .flags => .ok (.flags spec (on .json) (on .exportEnv))
  | .check => .ok (.check spec)
  | .variants => .ok (.variants (on .json))
  | .deps => .ok (.deps spec (on .all))
  | .completions =>
    match given.operand.bind CompletionShell.ofName? with
    | some shell => .ok (.completions shell)
    | none => .error .usage

/-- The outcome of asking for help, with the commands to be explained. -/
def helpOn : List String → Stop
  | [] => .help
  | [command] => if command = "help" ∨ (CommandName.ofText? command).isSome then .help else .usage
  | _ => .usage

/-- Read the arguments, from some before the command on. `environment` is the
configuration file that the environment names. -/
def parseFrom (environment : Option String) (before : Given) :
    List String → Except Stop Invocation
  | [] => .error .usage
  | argument :: rest =>
    if before.atCommand ∧ argument = "help" then .error (helpOn rest)
    else match (if before.atCommand then CommandName.ofText? argument else none) with
      | none => do
        let before ← before.take .before argument
        parseFrom environment before rest
      | some name => do
        let place := Place.after name
        let after ← rest.foldlM (fun given argument => given.take place argument) Given.start
        let after ← after.finish place environment
        let command ← commandOf name after
        let before ← before.finish .before environment
        let on (switch : Switch) :=
          before.switches.contains switch || after.switches.contains switch
        .ok
          { command
            verbose := on .verbose
            noColor := on .noColor
            config := after.config.or (before.config.or environment) }

/-- Read the arguments of a command line. -/
def parse (environment : Option String) (arguments : List String) : Except Stop Invocation :=
  parseFrom environment .start arguments

end BuildVariants.CommandLine
