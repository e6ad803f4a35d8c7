import BuildVariants.Data.Reading
import BuildVariants.Toml.Parser

/-!
# Reading settings from TOML

A TOML text with settings can be wrong in two ways: it is not TOML, or what it
says does not fit the settings.
-/

namespace BuildVariants.Toml

/-- Why settings cannot be read from a text. -/
inductive Failure
  /-- The text is not TOML. -/
  | malformed
  /-- What it says does not fit. -/
  | data (error : Data.Error)

/-- What a user is told. -/
def Failure.message : Failure → String
  | malformed => "TOML parse error"
  | data error => "TOML parse error: " ++ error.message

/-- Read settings from a text. -/
def read {α : Type} (ofData : Data → Except Data.Error α) (text : String) : Except Failure α :=
  match parse? text with
  | none => .error .malformed
  | some found => (ofData found).mapError .data

end BuildVariants.Toml
