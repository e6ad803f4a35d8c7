import BuildVariants.Data
import BuildVariants.NameMap
import BuildVariants.Compiler

/-!
# Reading data

A record is read field by field, in the order of its entries, into a record
that starts out with the defaults; reading stops at the first entry that does
not fit. A record may also be written as the list of its fields in their
order, of which the last ones may be missing.

A choice among names is written as a text, or as a map with the name as its only
entry, under which nothing is said.

The two formats differ in three points: what is said when a choice is written in
neither way, what counts as nothing under its name, and whether a list with more
items than a record has fields is refused.
-/

namespace BuildVariants.Data

/-- The format that data comes from. -/
inductive Format
  | toml
  | json
deriving DecidableEq, Repr

/-- What was expected where something else was found. -/
inductive Expected
  | text
  | path
  | map
  /-- A record of this name. -/
  | record (name : String)
deriving DecidableEq, Repr

/-- What a message calls an expectation. -/
def Expected.describe : Expected → String
  | text => "a string"
  | path => "path string"
  | map => "a map"
  | record name => "struct " ++ name

/-- Why data does not fit. -/
inductive Error
  /-- It is of the wrong kind. -/
  | wrongKind (found : Data) (expected : Expected)
  /-- A choice among names is neither a text nor a map. -/
  | notChoice (format : Format) (found : Data)
  /-- A choice among names is a map with more than one entry, or with none. -/
  | notOneEntry (format : Format) (count : Nat)
  /-- Something is said under the name of a choice. -/
  | notBare (format : Format) (found : Data)
  /-- A text is none of the names to choose from. -/
  | unknownChoice (name : String) (choices : List String)
  /-- It is not a truth value, a 64-bit integer or a text. -/
  | notValue
  /-- A text names no compiler. -/
  | compiler (error : CompilerError)
  /-- A record has no field of this name. -/
  | unknownField (name : String) (fields : List String)
  /-- A record is written as a list with more items than fields. -/
  | extraItems (count : Nat)
deriving Inhabited

/-- Names in backquotes, as a message lists them: two are joined by `or`, more
stand after `one of`. -/
def listNames (names : List String) : String :=
  let ticked := names.map fun name => "`" ++ name ++ "`"
  match ticked with
  | [first, second] => first ++ " or " ++ second
  | _ => "one of " ++ ", ".intercalate ticked

/-- What a message says of data that stands in TOML where a choice has nothing. -/
def describeNotBare (found : Data) : String :=
  if found.isDate then "expected table, found datetime"
  else
    match found with
    | .map _ => "expected empty table"
    | .list _ => "expected empty array"
    | .text _ => "expected table, found string"
    | .int _ => "expected table, found integer"
    | .real _ => "expected table, found float"
    | .bool _ => "expected table, found boolean"
    | .null => "expected table, found none"

/-- What a user is told. -/
def Error.message : Error → String
  | wrongKind found expected =>
    "invalid type: " ++ found.describe ++ ", expected " ++ expected.describe
  | notChoice .toml _ => "wanted string or table"
  | notChoice .json found => "invalid type: " ++ found.describe ++ ", expected string or map"
  | notOneEntry .toml 0 => "wanted exactly 1 element, found 0 elements"
  | notOneEntry .toml _ => "wanted exactly 1 element, more than 1 element"
  | notOneEntry .json _ => "invalid value: map, expected map with a single key"
  | notBare .toml found => describeNotBare found
  | notBare .json found => "invalid type: " ++ found.describe ++ ", expected unit"
  | unknownChoice name choices =>
    "unknown variant `" ++ name ++ "`, expected " ++ listNames choices
  | notValue => "data did not match any variant of untagged enum RawValue"
  | compiler error => error.message
  | unknownField name fields =>
    "unknown field `" ++ name ++ "`, expected " ++ listNames fields
  | extraItems count =>
    "invalid length " ++ Text.Numeral.ofNat count ++ ", expected fewer elements in array"

/-! ## Single values -/

/-- A text. -/
def toText : Data → Except Error String
  | .text value => .ok value
  | found => .error (.wrongKind found .text)

/-- A path, which is a text. -/
def toPath : Data → Except Error String
  | .text value => .ok value
  | found => .error (.wrongKind found .path)

/-- Something that may be absent. -/
def toOption {α : Type} (read : Data → Except Error α) : Data → Except Error (Option α)
  | .null => .ok none
  | found => (read found).map some

/-- The choice of a name. -/
def chooseName {α : Type} (names : List String) (ofName? : String → Option α) (name : String) :
    Except Error α :=
  match ofName? name with
  | some choice => .ok choice
  | none => .error (.unknownChoice name names)

/-- Whether data says nothing under the name of a choice: an empty table or list in
TOML, null in JSON. -/
def isBare : Format → Data → Bool
  | .toml, .map [] => true
  | .toml, .list [] => true
  | .json, .null => true
  | _, _ => false

/-- A choice among names: a text, or a map whose only entry has the name and says
nothing. -/
def toChoice {α : Type} (format : Format) (names : List String) (ofName? : String → Option α)
    (found : Data) : Except Error α :=
  match found with
  | .text name => chooseName names ofName? name
  | .map entries =>
    if format = .toml ∧ found.isDate then .error (.notChoice format found)
    else
      match entries with
      | [(name, value)] => do
        let choice ← chooseName names ofName? name
        if isBare format value then .ok choice else .error (.notBare format value)
      | entries => .error (.notOneEntry format entries.length)
  | found => .error (.notChoice format found)

/-- A compiler's identity. -/
def toCompiler (found : Data) : Except Error Compiler := do
  match Compiler.parse (← found.toText) with
  | .ok compiler => .ok compiler
  | .error error => .error (.compiler error)

/-! ## Maps and records -/

/-- A map from names, whose values are all read alike. -/
def toNameMap {α : Type} (read : Data → Except Error α) : Data → Except Error (NameMap α)
  | .map entries =>
    entries.foldlM (fun m entry => (read entry.2).map fun value => m.insert entry.1 value) .empty
  | found => .error (.wrongKind found .map)

/-- A record. `set` takes a field's name and data into the record read so
far. -/
def toRecord {α : Type} (format : Format) (name : String) (fields : List String)
    (set : String → Data → α → Except Error α) (start : α) : Data → Except Error α
  | .map entries => entries.foldlM (fun record entry => set entry.1 entry.2 record) start
  | .list items => do
    let record ← (fields.zip items).foldlM (fun record entry => set entry.1 entry.2 record) start
    if format = .json ∧ fields.length < items.length then .error (.extraItems items.length)
    else .ok record
  | found => .error (.wrongKind found (.record name))

end BuildVariants.Data
