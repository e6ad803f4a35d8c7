import BuildVariants.Files
import BuildVariants.NameMap
import BuildVariants.Text.Pieces
import BuildVariants.Value

/-!
# Domains

The domain of a variant is the set of values it accepts: a truth value, one of
some names, an integer within bounds, or a text that a validator accepts.
Whether a supplied value has the right shape is a matter of the value alone
(`Domain.accept?`). Only a validator may look at files, and it is run apart,
on a value that already has the right shape.

A domain of names can take several at once. They are supplied in one text,
separated by commas, and kept in increasing order without repeats.
-/

namespace BuildVariants

/-- A check of texts that may look at files. -/
structure Validator where
  /-- What it accepts, as shown to users. -/
  description : String
  /-- Why a text is rejected, or nothing if it is accepted. -/
  rejects : Files → String → Option String

/-- The text by which a variant that takes a path is left unset. -/
def unset : String := "none"

/-- Accepts the path of an existing directory, and the unset path. -/
def Validator.directoryOrUnset : Validator :=
  { description := "directory or 'none'"
    rejects := fun files path =>
      if path = unset then none
      else match files.lookup path with
        | .ok .directory => none
        | .ok (.file _) => some "not a directory"
        | .error .notFound => some "no such directory"
        | .error error => some ("cannot access directory: " ++ error.message) }

/-- The set of values that a variant accepts. -/
inductive Domain
  /-- A truth value. -/
  | toggle
  /-- One of some names, or several of them. -/
  | choice (names : List String)
  /-- An integer within bounds, both inclusive. -/
  | integer (min max : Option Int64)
  /-- A text that a validator accepts. -/
  | checked (validator : Validator)

/-- The truth value that a text spells, in any mix of upper and lower case. -/
def readToggle? (text : String) : Option Bool :=
  let lower := text.toList.map Char.toLower
  if lower = "true".toList ∨ lower = "on".toList then some true
  else if lower = "false".toList ∨ lower = "off".toList then some false
  else none

/-- The pieces of a text between commas, without the blanks around them. -/
def trimmedPieces (text : String) : List String :=
  (Text.pieces ',' text.toList).map fun piece => .ofList (Text.trimChars piece)

/-- Texts in increasing order without repeats. -/
def distinct (texts : List String) : List String :=
  (NameMap.ofList (texts.map fun text => (text, ()))).names

namespace Domain

/-- A bound as text, empty if there is none. -/
def boundText (bound : Option Int64) : String := (bound.map Text.Numeral.write).getD ""

/-- The values that a domain accepts, as shown to users. -/
def allowed : Domain → List String
  | toggle => ["true", "false"]
  | choice names => names
  | integer none none => ["<integer>"]
  | integer min max => [boundText min ++ "..=" ++ boundText max]
  | checked validator => [validator.description]

/-- A domain in one line. -/
def render : Domain → String
  | toggle => "bool"
  | choice names => "\x7b" ++ ", ".intercalate names ++ "\x7d"
  | domain => "".intercalate domain.allowed

/-- Whether an integer keeps within bounds. -/
def within (min max : Option Int64) (value : Int64) : Bool :=
  min.all (· ≤ value) && max.all (value ≤ ·)

/-- The names that a text selects, if the domain has them all. -/
def select? (multiple : Bool) (names : List String) (text : String) : Option Value :=
  if multiple then
    let selected := trimmedPieces text
    if selected.all names.contains then some (.texts (distinct selected)) else none
  else if names.contains text then some (.text text)
  else none

/-- The value that a supplied value stands for in a domain, if it has the
right shape. A name may be supplied as an integer, and an integer as text. -/
def accept? (multiple : Bool) : Domain → SuppliedValue → Option Value
  | toggle, .bool value => some (.bool value)
  | toggle, .text text => (readToggle? text).map .bool
  | toggle, .int _ => none
  | choice names, .text text => select? multiple names text
  | choice names, .int value => select? multiple names (Text.Numeral.write value)
  | choice _, .bool _ => none
  | integer min max, .int value => if within min max value then some (.int value) else none
  | integer min max, .text text =>
    match Text.Numeral.read? (Text.trim text) with
    | some value => if within min max value then some (.int value) else none
    | none => none
  | integer _ _, .bool _ => none
  | checked _, .text text => some (.text text)
  | checked _, .int _ => none
  | checked _, .bool _ => none

end Domain

end BuildVariants
