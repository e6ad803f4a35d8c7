import BuildVariants.CommandLine.Run

/-!
# The program

Reads the files that a command line looks at, runs it and shows what it comes
to: the output on the standard output, warnings and the report of a failure on
the standard error. Files are read in two steps, since only an assembled
request tells which directories its values name.
-/

namespace BuildVariants

/-- Why a path leads nowhere, by the system's account. -/
def pathErrorOf : IO.Error → PathError
  | .noFileOrDirectory .. => .notFound
  | .inappropriateType .. => .notDirectory
  | .invalidArgument _ 22 _ => .nulCharacter
  | .invalidArgument .. => .nameTooLong
  | .permissionDenied .. => .other "Permission denied (os error 13)"
  | error => .other (toString error)

/-- What a path leads to, with at most so many bytes of a file. Reading from
a directory fails with error 21, by which it is known. -/
def readEntry (limit : Option USize) (path : String) :
    BaseIO (String × Except PathError FileEntry) := do
  let found ← EIO.toBaseIO do
    match limit with
    | none => IO.FS.readBinFile path
    | some limit => IO.FS.withFile path .read (·.read limit)
  return (path, match found with
    | .ok content => .ok (.file content)
    | .error (.inappropriateType _ 21 _) => .ok .directory
    | .error error => .error (pathErrorOf error))

/-- What a command finds around it. -/
def surroundings (arguments : List String) : IO CommandLine.Surroundings := do
  let bare : CommandLine.Surroundings :=
    { files := .ofList []
      home := ← IO.getEnv "HOME"
      directory := toString (← IO.currentDir)
      environment := ← IO.getEnv "LEGION_CONFIG" }
  let sources ← (CommandLine.sourcePaths bare arguments).mapM fun path => readEntry none path
  let withSources := { bare with files := .ofList sources }
  let places ← (CommandLine.assignedTexts withSources arguments).mapM fun path =>
    readEntry (some 1) path
  return { bare with files := .ofList (sources ++ places) }

end BuildVariants

/-- Run a command line. -/
def main (arguments : List String) : IO UInt32 := do
  let outcome := BuildVariants.CommandLine.run (← BuildVariants.surroundings arguments) arguments
  for warning in outcome.warnings do
    IO.eprintln (" WARN " ++ warning.message)
  IO.print outcome.output
  IO.eprint outcome.report
  return outcome.code.toUInt32
