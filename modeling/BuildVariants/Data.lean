import BuildVariants.Text.Numeral
import BuildVariants.Text.Quoted

/-!
# Data

Specs and configurations are written in TOML and exchanged as JSON. Both say
the same kinds of things – truth values, numbers, texts, lists and maps – and
what is read from either is a `Data`. A map keeps its entries in the order in
which they are to be visited, since the first bad entry is the one reported.

A number with a fraction or an exponent is never a valid setting. It is kept
as the text that a message shows for it. A date, which TOML has and JSON has not,
is a map with one entry of a name of its own.
-/

namespace BuildVariants

/-- A piece of data. -/
inductive Data
  | null
  | bool (value : Bool)
  | int (value : Int)
  /-- A number that is not an integer, as a message shows it. -/
  | real (shown : String)
  | text (value : String)
  | list (items : List Data)
  | map (entries : List (String × Data))
deriving Inhabited

namespace Data

/-- A text, or nothing. -/
def ofOption : Option String → Data
  | some value => text value
  | none => null

/-- A list of texts. -/
def ofTexts (values : List String) : Data := list (values.map text)

/-- The name under which a date is found in the map that stands for it. -/
def dateKey : String := "$__toml_private_datetime"

/-- A date, as it is spelled. -/
def date (spelling : String) : Data := map [(dateKey, text spelling)]

/-- Whether data is a date. -/
def isDate : Data → Bool
  | map [(name, text _)] => name = dateKey
  | _ => false

/-- What a message calls a piece of data that it did not expect. -/
def describe : Data → String
  | null => "null"
  | bool value => "boolean `" ++ (if value then "true" else "false") ++ "`"
  | int value => "integer `" ++ Text.Numeral.ofInt value ++ "`"
  | real shown => "floating point `" ++ shown ++ "`"
  | text value => "string " ++ Text.quoted value
  | list _ => "sequence"
  | map _ => "map"

/-! ## Equality -/

mutual
/-- Whether two pieces of data are the same. -/
def same : Data → Data → Bool
  | null, null => true
  | bool first, bool second => first = second
  | int first, int second => first = second
  | real first, real second => first = second
  | text first, text second => first = second
  | list first, list second => sameItems first second
  | map first, map second => sameEntries first second
  | _, _ => false
/-- Whether the items of two lists are the same. -/
def sameItems : List Data → List Data → Bool
  | [], [] => true
  | item :: rest, item' :: rest' => same item item' && sameItems rest rest'
  | _, _ => false
/-- Whether the entries of two maps are the same and in the same order. -/
def sameEntries : List (String × Data) → List (String × Data) → Bool
  | [], [] => true
  | (name, value) :: rest, (name', value') :: rest' =>
    decide (name = name') && same value value' && sameEntries rest rest'
  | _, _ => false
end

mutual
/-- Data are found the same only if they are. -/
theorem same_iff (first second : Data) : same first second = true ↔ first = second := by
  cases first <;> cases second <;> simp [same, sameItems_iff, sameEntries_iff]
theorem sameItems_iff (first second : List Data) :
    sameItems first second = true ↔ first = second := by
  cases first <;> cases second <;> simp [sameItems, same_iff, sameItems_iff]
theorem sameEntries_iff (first second : List (String × Data)) :
    sameEntries first second = true ↔ first = second := by
  cases first <;> cases second <;> simp [sameEntries, same_iff, sameEntries_iff, Prod.ext_iff]
end

instance : DecidableEq Data := fun first second => decidable_of_iff _ (same_iff first second)

end Data

end BuildVariants
