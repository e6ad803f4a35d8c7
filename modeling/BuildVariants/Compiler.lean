import BuildVariants.Text.Blank
import BuildVariants.Text.Pieces

/-!
# Compiler identities

A compiler is named by its family and, if it matters, a version: `gcc`,
`gcc@9.3.0`, `clang@12`. A leading `%`, as it is written behind a package in a
spec, is not part of the name.

Conditions ask for the family only. Two families are known by name; any other
name is a family of its own.
-/

namespace BuildVariants

/-- The part of a compiler's identity that conditions ask for. -/
inductive CompilerFamily
  | gcc
  | clang
  | other (name : String)
deriving DecidableEq, Repr, Inhabited

/-- The family of a name. -/
def CompilerFamily.ofName (name : String) : CompilerFamily :=
  if name = "gcc" then .gcc else if name = "clang" then .clang else .other name

/-- The name of a family. -/
def CompilerFamily.name : CompilerFamily → String
  | .gcc => "gcc"
  | .clang => "clang"
  | .other name => name

@[simp] theorem CompilerFamily.name_ofName (name : String) : (ofName name).name = name := by
  unfold ofName
  split
  · next h => exact h.symm
  · split
    · next h => exact h.symm
    · rfl

/-- A compiler's identity. -/
structure Compiler where
  family : CompilerFamily
  version : Option String
deriving DecidableEq, Repr, Inhabited

/-- Why a text names no compiler. The text is kept as it stands after the
blanks around it and the leading `%` signs are taken off. -/
inductive CompilerError
  /-- Nothing stands before the version, or nothing at all. -/
  | missingName (text : String)
  /-- The `@` is the end of the text. -/
  | emptyVersion (text : String)
deriving DecidableEq, Repr

/-- What a user is told. -/
def CompilerError.message : CompilerError → String
  | missingName text => "invalid compiler `" ++ text ++ "`: missing compiler name"
  | emptyVersion text => "invalid compiler `" ++ text ++ "`: empty version"

namespace Compiler

/-- GCC of any version, the compiler of a spec that names none. -/
def gcc : Compiler := ⟨.gcc, none⟩

/-- Read an identity: the name before the first `@`, the version after it. -/
def parse (text : String) : Except CompilerError Compiler :=
  let body := (Text.trimChars text.toList).dropWhile (· = '%')
  let (name, version) := match Text.cutAt? '@' body with
    | some (name, version) => (name, some version)
    | none => (body, none)
  if name = [] then .error (.missingName (.ofList body))
  else if version = some [] then .error (.emptyVersion (.ofList body))
  else .ok ⟨.ofName (.ofList name), version.map .ofList⟩

/-- An identity as it is read. -/
def render (compiler : Compiler) : String :=
  match compiler.version with
  | some version => compiler.family.name ++ "@" ++ version
  | none => compiler.family.name

end Compiler

end BuildVariants
