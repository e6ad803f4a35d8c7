import BuildVariants.Domain
import BuildVariants.ValidationError

/-!
# Variants and their schema

A variant is one thing that can be chosen about a build: a name, the domain of
its values and the value it has if none is assigned. A schema lists the
variants in the order of their declaration. A name may be declared twice; then
the first declaration counts for every look-up.

Resolving takes assignments to a value for every declared name. It goes in two
steps which can be run apart: `Schema.bind` checks the shape of the assigned
values and fills in the defaults, and `Schema.verify` runs the validators over
what is bound then. Both go through the names in increasing order, so the
first failure is always the same one.
-/

namespace BuildVariants

/-- One thing that can be chosen about a build. -/
structure Variant where
  name : String
  domain : Domain
  /-- The value if none is assigned. It need not lie in the domain. -/
  default : Value
  /-- Whether several names can be chosen at once. -/
  multiple : Bool
  description : String

namespace Variant

/-! ## Declaring -/

/-- A variant that is on or off. -/
def toggle (name : String) (default : Bool) (description : String) : Variant :=
  ⟨name, .toggle, .bool default, false, description⟩

/-- A variant that is one of some names. -/
def choice (name : String) (names : List String) (default description : String) : Variant :=
  ⟨name, .choice names, .text default, false, description⟩

/-- A variant that is any integer. -/
def integer (name : String) (default : Int64) (description : String) : Variant :=
  ⟨name, .integer none none, .int default, false, description⟩

/-- A variant that is a text accepted by a validator. -/
def checked (name : String) (validator : Validator) (default description : String) : Variant :=
  ⟨name, .checked validator, .text default, false, description⟩

/-- The variant that takes several names, separated by commas. -/
def multi (variant : Variant) : Variant := { variant with multiple := true }

/-! ## Checking -/

/-- The value that a supplied value stands for, by its shape alone. -/
def shape (variant : Variant) (raw : SuppliedValue) : Except ValidationError Value :=
  match variant.domain.accept? variant.multiple raw with
  | some value => .ok value
  | none => .error (.invalidDomain variant.name raw.render variant.domain.allowed)

/-- Why the variant's validator rejects a value. The other domains have no
validator, and a validator looks at single texts only. -/
def failure? (variant : Variant) (files : Files) (value : Value) : Option ValidationError :=
  match variant.domain, value with
  | .checked validator, .text text =>
    (validator.rejects files text).map (.invalidPath variant.name text ·)
  | _, _ => none

/-- Check a supplied value, with the variant's validator. -/
def validate (variant : Variant) (files : Files) (raw : SuppliedValue) :
    Except ValidationError Value :=
  match variant.shape raw with
  | .error error => .error error
  | .ok value =>
    match variant.failure? files value with
    | some error => .error error
    | none => .ok value

end Variant

/-! ## The values of a build -/

/-- A value for every variant of a build. -/
structure Values where
  bindings : NameMap Value
deriving DecidableEq

namespace Values

/-- The value of a variant. -/
def get? (values : Values) (name : String) : Option Value := values.bindings.get? name

/-- Whether a variant is on: only a truth value can be. -/
def enabled (values : Values) (name : String) : Bool :=
  match values.get? name with
  | some (.bool value) => value
  | _ => false

/-- The value of a variant that holds a single text. -/
def text? (values : Values) (name : String) : Option String :=
  match values.get? name with
  | some (.text value) => some value
  | _ => none

/-- The value of a variant that holds an integer. -/
def integer? (values : Values) (name : String) : Option Int64 :=
  match values.get? name with
  | some (.int value) => some value
  | _ => none

/-- Whether a variant holds a text, or holds it among others. An integer holds
its decimal text, and a truth value holds none. -/
def holds (values : Values) (name text : String) : Bool :=
  match values.get? name with
  | some (.text value) => value = text
  | some (.int value) => Text.Numeral.write value = text
  | some (.texts items) => items.contains text
  | some (.bool _) | none => false

end Values

/-! ## Schemas -/

/-- The variants of a package, in the order of their declaration. -/
structure Schema where
  variants : List Variant

namespace Schema

/-- The first variant declared under a name. -/
def find? (schema : Schema) (name : String) : Option Variant :=
  schema.variants.find? (·.name = name)

/-- The value that an assignment stands for, by its shape alone. -/
def shape (schema : Schema) (name : String) (raw : SuppliedValue) : Except ValidationError Value :=
  match schema.find? name with
  | none => .error (.unknownVariant name raw.render)
  | some variant => variant.shape raw

/-- Check one assignment. -/
def validate (schema : Schema) (files : Files) (name : String) (raw : SuppliedValue) :
    Except ValidationError Value :=
  match schema.find? name with
  | none => .error (.unknownVariant name raw.render)
  | some variant => variant.validate files raw

/-- Bind every variant that is not bound yet to its default. -/
def fillDefaults (schema : Schema) (assigned : NameMap Value) : NameMap Value :=
  schema.variants.foldl (fun values variant => values.insertIfNew variant.name variant.default)
    assigned

/-- Check the shape of every assignment, in the order of the names, and fill
in the defaults. -/
def bind (schema : Schema) (assignments : NameMap SuppliedValue) : Except ValidationError Values :=
  match assignments.traverse schema.shape with
  | .error error => .error error
  | .ok assigned => .ok ⟨schema.fillDefaults assigned⟩

/-- Why the validator of a bound variant rejects its value. -/
def failure? (schema : Schema) (files : Files) (name : String) (value : Value) :
    Option ValidationError :=
  (schema.find? name).bind (·.failure? files value)

/-- Run the validators over bound values, in the order of the names. -/
def verify (schema : Schema) (files : Files) (values : Values) : Except ValidationError Unit :=
  match values.bindings.entries.findSome? fun entry => schema.failure? files entry.1 entry.2 with
  | some error => .error error
  | none => .ok ()

/-- Bind all variants and run the validators. -/
def resolve (schema : Schema) (files : Files) (assignments : NameMap SuppliedValue) :
    Except ValidationError Values :=
  match schema.bind assignments with
  | .error error => .error error
  | .ok values =>
    match schema.verify files values with
    | .error error => .error error
    | .ok () => .ok values

end Schema

end BuildVariants
