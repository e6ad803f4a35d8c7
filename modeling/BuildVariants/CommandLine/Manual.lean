import BuildVariants.CommandLine.Arguments
import BuildVariants.Listing

/-!
# Help, version and completions

What the program says about itself: the version, a page on how it is called,
and for each shell a script by which the shell completes the program's
arguments. The page and the scripts speak of the same commands and options.
-/

namespace BuildVariants.CommandLine

/-- The name of the program. -/
def programName : String := "legion-config"

/-- The program and its version. -/
def versionText : String := programName ++ " 0.1.0\n"

/-- What a command is for. -/
def CommandName.summary : CommandName → String
  | flags => "Print the CMake arguments for a build configuration"
  | check => "Validate a build configuration without printing flags"
  | variants => "List the known variants"
  | deps => "Show the dependencies a build configuration needs"
  | completions => "Generate shell completions"

/-- The options with what they are for. -/
def optionSummaries : List (String × String) := [
  ("--verbose", "Enable verbose output"),
  ("--no-color", "Disable colored output"),
  ("--config <PATH>", "Use this config file instead of ~/.legion-config/config.toml"),
  ("--variant <TOKEN>", "Variant assignment: `+name`, `~name` or `name=value` (repeatable)"),
  ("--json", "Print as JSON (flags, variants)"),
  ("--export-env", "Print `export` lines for required environment variables first (flags)"),
  ("--all", "Show every conditional row instead of the active ones (deps)"),
  ("--help", "Print help"),
  ("--version", "Print version")]

/-- Names and what they are for, aligned. -/
def summaryLines (summaries : List (String × String)) : List String :=
  let width := summaries.foldl (fun width entry => max width entry.1.length) 0
  summaries.map fun entry => "  " ++ padRight width entry.1 ++ "  " ++ entry.2

/-- How the program is called. -/
def helpText : String :=
  unlines
    (["Translate Legion build configurations into CMake arguments", "",
        "Usage: " ++ programName ++ " [OPTIONS] <COMMAND> [SPEC]", "", "Commands:"]
      ++ summaryLines (CommandName.all.map fun name => (name.text, name.summary))
      ++ ["", "Options:"] ++ summaryLines optionSummaries)

/-- The words that a shell offers as arguments. -/
def completionWords : List String :=
  CommandName.all.map (·.text) ++ optionSummaries.map fun entry =>
    .ofList (entry.1.toList.takeWhile (· ≠ ' '))

/-- The script by which a shell completes the program's arguments. -/
def CompletionShell.script (shell : CompletionShell) : String :=
  let words := " ".intercalate completionWords
  match shell with
  | bash => "complete -o default -W '" ++ words ++ "' " ++ programName ++ "\n"
  | elvish =>
    "set edit:completion:arg-completer[" ++ programName ++ "] = \x7b|@arguments| put " ++ words
      ++ " \x7d\n"
  | fish => "complete -c " ++ programName ++ " -a '" ++ words ++ "'\n"
  | powershell =>
    "Register-ArgumentCompleter -Native -CommandName " ++ programName
      ++ " -ScriptBlock \x7b param($word) -split '" ++ words
      ++ "' | Where-Object \x7b $_ -like \"$word*\" \x7d \x7d\n"
  | zsh => "compctl -f -k '(" ++ words ++ ")' " ++ programName ++ "\n"

end BuildVariants.CommandLine
