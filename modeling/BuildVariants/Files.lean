import BuildVariants.Text.Blank

/-!
# Files

What the rest of the library needs to know of a file system is what each path
leads to: a directory, a file with its content, or nothing, and then why not.
A `Files` is that knowledge at one moment. Everything that depends on files
takes one as an argument, so the same request can be asked of two file systems
and the answers compared.
-/

namespace BuildVariants

/-- What a path leads to. -/
inductive FileEntry
  | directory
  | file (content : ByteArray)

/-- Why a path leads nowhere. -/
inductive PathError
  /-- A part of the path does not exist. -/
  | notFound
  /-- A part that should hold the next one is not a directory. -/
  | notDirectory
  /-- A part, or the path as a whole, is too long. -/
  | nameTooLong
  /-- The path holds a null character. -/
  | nulCharacter
  /-- The system gives another reason. -/
  | other (reason : String)
deriving DecidableEq, Repr

/-- What the system calls the reason. -/
def PathError.message : PathError → String
  | notFound => "No such file or directory (os error 2)"
  | notDirectory => "Not a directory (os error 20)"
  | nameTooLong => "File name too long (os error 36)"
  | nulCharacter => "file name contained an unexpected NUL byte"
  | other reason => reason

/-- What each path leads to, at one moment. -/
structure Files where
  lookup : String → Except PathError FileEntry

/-- Why a text file cannot be read. -/
inductive ReadFailure
  | path (error : PathError)
  | isDirectory
  | notUtf8
deriving DecidableEq, Repr

/-- What the system calls the reason. -/
def ReadFailure.message : ReadFailure → String
  | path error => error.message
  | isDirectory => "Is a directory (os error 21)"
  | notUtf8 => "stream did not contain valid UTF-8"

namespace Files

/-- The files of which nothing is known but what some paths lead to. -/
def ofList (known : List (String × Except PathError FileEntry)) : Files :=
  ⟨fun path => (known.lookup path).getD (.error .notFound)⟩

/-- Whether a path leads to anything. -/
def present (files : Files) (path : String) : Bool := (files.lookup path).isOk

/-- The text of a file. -/
def readText (files : Files) (path : String) : Except ReadFailure String :=
  match files.lookup path with
  | .error error => .error (.path error)
  | .ok .directory => .error .isDirectory
  | .ok (.file content) =>
    match String.fromUTF8? content with
    | some text => .ok text
    | none => .error .notUtf8

end Files

/-! ## Paths -/

/-- A path inside a directory: a slash goes between the two unless the first
is empty or ends in one, and nothing else changes. -/
def joinPath (directory name : String) : String :=
  if directory.isEmpty ∨ directory.toList.getLast? = some '/' then directory ++ name
  else directory ++ "/" ++ name

end BuildVariants
