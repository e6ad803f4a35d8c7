import BuildVariants.Spec.File
import BuildVariants.ValidationError

/-!
# What a command comes to

A command prints text and ends with a code. On the way it can warn of what it
did without, and it can fail. The code is 0 for success, 1 for a request that
cannot be met and 2 for arguments that do not fit.
-/

namespace BuildVariants.CommandLine

/-- What a command did without. -/
inductive Warning
  /-- A configuration file that is there could not be loaded. -/
  | configNotLoaded (path : String) (error : ConfigError)
  /-- The flags alone are not enough: environment variables have to be set
  too, and the commands that set them were not asked for. -/
  | environmentNeeded

/-- What a user is told. -/
def Warning.message : Warning → String
  | configNotLoaded path error =>
    "Failed to load config from " ++ path ++ ": " ++ error.message ++ ": " ++ error.cause
  | environmentNeeded =>
    "this configuration needs environment variables set; rerun with --export-env"

/-- Why a command fails. -/
inductive Failure
  /-- The arguments do not fit. -/
  | usage
  /-- There is no spec to work on. -/
  | assembly (error : AssemblyError)
  /-- The spec is refused. -/
  | selection (error : SelectionError)

namespace Failure

/-- The code that a command ends with when it fails. -/
def code : Failure → UInt8
  | usage => 2
  | assembly _ | selection _ => 1

/-- What a user is told. -/
def report : Failure → String
  | usage => "error: the arguments do not fit\n\nFor more information, try '--help'.\n"
  | assembly error =>
    "error: " ++ error.message
      ++ (match error.cause? with
        | some cause => ": " ++ cause
        | none => "")
      ++ "\n"
  | selection error => error.diagnostic.render false

end Failure

/-- What a command comes to. -/
structure Outcome where
  /-- What it prints. -/
  output : String
  /-- What it warns of, in order. -/
  warnings : List Warning
  failure : Option Failure

namespace Outcome

/-- A command that prints a text. -/
def success (warnings : List Warning) (output : String) : Outcome := ⟨output, warnings, none⟩

/-- A command that fails and prints nothing. -/
def failed (warnings : List Warning) (failure : Failure) : Outcome := ⟨"", warnings, some failure⟩

/-- The code that the command ends with. -/
def code (outcome : Outcome) : UInt8 :=
  match outcome.failure with
  | none => 0
  | some failure => failure.code

/-- What a user is told of the failure, if there is one. -/
def report (outcome : Outcome) : String :=
  match outcome.failure with
  | none => ""
  | some failure => failure.report

end Outcome

end BuildVariants.CommandLine
