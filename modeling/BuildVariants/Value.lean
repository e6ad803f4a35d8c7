import BuildVariants.Data.Reading

/-!
# Values of variants

A value comes in as it was supplied – a truth value, a 64-bit integer or a
text – and is checked against its variant before anything else looks at it. A
checked value can also be a list of texts, for a variant that takes several at
once.
-/

namespace BuildVariants

/-- A value as it was supplied. -/
inductive SuppliedValue
  | bool (value : Bool)
  | int (value : Int64)
  | text (value : String)
deriving DecidableEq, Repr, Inhabited

/-- A value that has been checked against its variant. -/
inductive Value
  | bool (value : Bool)
  | int (value : Int64)
  | text (value : String)
  | texts (values : List String)
deriving DecidableEq, Repr, Inhabited

/-- The text of a truth value. -/
def boolText (value : Bool) : String := if value then "true" else "false"

namespace SuppliedValue

/-- A supplied value as a text. -/
def render : SuppliedValue → String
  | bool value => boolText value
  | int value => Text.Numeral.write value
  | text value => value

/-- Read a supplied value. Anything but a truth value, a 64-bit integer or a
text is refused. -/
def ofData : Data → Except Data.Error SuppliedValue
  | .bool value => .ok (bool value)
  | .int value =>
    match Text.Numeral.toWord? value with
    | some word => .ok (int word)
    | none => .error .notValue
  | .text value => .ok (text value)
  | _ => .error .notValue

/-- A supplied value as data. -/
def toData : SuppliedValue → Data
  | bool value => .bool value
  | int value => .int value.toInt
  | text value => .text value

/-- **A supplied value is read back from its data.** -/
theorem ofData_toData (raw : SuppliedValue) : ofData raw.toData = .ok raw := by
  cases raw with
  | int value => simp only [toData, ofData, Text.Numeral.toWord?_toInt]
  | bool => rfl
  | text => rfl

end SuppliedValue

namespace Value

/-- A checked value as a text: the texts of a list are joined by commas. -/
def render : Value → String
  | bool value => boolText value
  | int value => Text.Numeral.write value
  | text value => value
  | texts values => ",".intercalate values

/-- A checked value as data. -/
def toData : Value → Data
  | bool value => .bool value
  | int value => .int value.toInt
  | text value => .text value
  | texts values => .ofTexts values

end Value

end BuildVariants
