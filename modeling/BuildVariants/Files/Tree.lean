import BuildVariants.Files
import BuildVariants.Text.Pieces

/-!
# Directory trees

A file system held in memory: the directories and files at their places, and
the directory that relative paths start from. A path is followed part by part.
Each part but the first is looked up in what the parts before it lead to,
which must be a directory; `.` stays there, and `..` goes to the directory that
holds it. A slash at the end of a path is a part too, so what stands before it
must be a directory.
-/

namespace BuildVariants

/-- A place in a tree: the names from the root to it. -/
abbrev Place := List String

/-- A tree of directories and files, and where relative paths start. -/
structure FileTree where
  /-- What is at each place other than the root. -/
  entries : List (Place × FileEntry)
  /-- The directory that relative paths start from. -/
  current : Place

namespace FileTree

/-- What is at a place; the root is always a directory. -/
def at? (tree : FileTree) (place : Place) : Option FileEntry :=
  if place = [] then some .directory else tree.entries.lookup place

/-- The longest name of a part, in bytes. -/
def maxName : Nat := 255

/-- The length from which on a path is too long, in bytes. -/
def maxPath : Nat := 4096

/-- Follow the parts of a path from a place on. -/
def follow (tree : FileTree) (place : Place) : List String → Except PathError FileEntry
  | [] => (tree.at? place).elim (.error .notFound) .ok
  | part :: parts =>
    match tree.at? place with
    | none => .error .notFound
    | some (.file _) => .error .notDirectory
    | some .directory =>
      if part = "" ∨ part = "." then tree.follow place parts
      else if part = ".." then tree.follow place.dropLast parts
      else if maxName < part.utf8ByteSize then .error .nameTooLong
      else tree.follow (place ++ [part]) parts

/-- The parts of a path between its slashes. -/
def parts (path : String) : List String := (Text.pieces '/' path.toList).map .ofList

/-- What a path leads to. -/
def lookup (tree : FileTree) (path : String) : Except PathError FileEntry :=
  if path.toList.contains '\x00' then .error .nulCharacter
  else if path.isEmpty then .error .notFound
  else if maxPath ≤ path.utf8ByteSize then .error .nameTooLong
  else if path.toList.head? = some '/' then tree.follow [] (parts path)
  else tree.follow tree.current (parts path)

/-- The tree as what each path leads to. -/
def files (tree : FileTree) : Files := ⟨tree.lookup⟩

/-! ## Building trees -/

/-- The tree with an entry at a place, in the stead of what was there. -/
def put (tree : FileTree) (place : Place) (entry : FileEntry) : FileTree :=
  { tree with entries := (place, entry) :: tree.entries.filter (·.1 ≠ place) }

/-- The parts of a path that lead somewhere else than where they stand. -/
def steps (path : String) : List String := (parts path).filter fun part => part ≠ "" ∧ part ≠ "."

/-- Follow steps from a place on and make each part that is named a directory:
the tree, and the place where the steps end. A directory that the steps leave
again stays. -/
def enter (tree : FileTree) (place : Place) : List String → FileTree × Place
  | [] => (tree, place)
  | step :: steps =>
    if step = ".." then tree.enter place.dropLast steps
    else
      let inner := place ++ [step]
      (tree.put inner .directory).enter inner steps

/-- The tree with a directory at a relative path, and the directories on the
way to it. -/
def addDirectory (tree : FileTree) (path : String) : FileTree :=
  (tree.enter tree.current (steps path)).1

/-- The tree with a file at a relative path, and the directories on the way to
it. -/
def addFile (tree : FileTree) (path : String) (content : ByteArray) : FileTree :=
  let steps := steps path
  let (tree, place) := tree.enter tree.current steps.dropLast
  tree.put (place ++ steps.getLast?.toList) (.file content)

/-- A tree that holds the null device and an empty directory, where relative
paths start. -/
def scratch : FileTree :=
  let empty : FileTree := ⟨[], ["scratch"]⟩
  ((empty.put ["scratch"] .directory).put ["dev"] .directory).put ["dev", "null"] (.file .empty)

end FileTree

end BuildVariants
