import BuildVariants.Data

/-!
# CMake cache entries

A `-D` argument sets one entry of CMake's cache: a name, possibly a type, and a
value.
-/

namespace BuildVariants

/-- The type of a cache entry, where it is given. -/
inductive CacheType
  | string
deriving DecidableEq, Repr

/-- The keyword of a type. -/
def CacheType.keyword : CacheType → String
  | string => "STRING"

/-- One entry of CMake's cache. -/
structure CacheEntry where
  name : String
  type : Option CacheType
  value : String
deriving DecidableEq, Repr

namespace CacheEntry

/-- An entry without a type. -/
def plain (name value : String) : CacheEntry := ⟨name, none, value⟩

/-- An entry of type string. -/
def typed (name value : String) : CacheEntry := ⟨name, some .string, value⟩

/-- An entry that is on or off. -/
def switch (name : String) (on : Bool) : CacheEntry := plain name (if on then "ON" else "OFF")

/-- An entry as an argument of `cmake`. -/
def render (entry : CacheEntry) : String :=
  match entry.type with
  | some type => "-D" ++ entry.name ++ ":" ++ type.keyword ++ "=" ++ entry.value
  | none => "-D" ++ entry.name ++ "=" ++ entry.value

/-- An entry as data. -/
def toData (entry : CacheEntry) : Data :=
  .map [("name", .text entry.name),
    ("ty", match entry.type with
      | some .string => .text "String"
      | none => .null),
    ("value", .text entry.value)]

end CacheEntry

end BuildVariants
