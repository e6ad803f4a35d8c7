import BuildVariants.Text.Shell
import BuildVariants.BuildPlan

/-!
# Environment variables

A build plan may need variables in the environment in which the build is
configured. They can be set in an environment directly, or written as commands
for a shell, one variable on each line and in the order of their names.
-/

namespace BuildVariants

/-- The command by which a shell sets and exports a variable. -/
def exportCommand (name value : String) : String :=
  "export " ++ name ++ "=" ++ Text.Shell.quote value

namespace BuildPlan

/-- The shell commands that set a plan's variables. -/
def exports (plan : BuildPlan) : List String :=
  plan.env.entries.map fun entry => exportCommand entry.1 entry.2

/-- An environment with a plan's variables set. -/
def setVariables (plan : BuildPlan) (environment : NameMap String) : NameMap String :=
  environment.overlay plan.env

end BuildPlan

end BuildVariants
