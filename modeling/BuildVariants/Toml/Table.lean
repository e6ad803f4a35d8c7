import BuildVariants.Data

/-!
# Tables under construction

A TOML text builds its root table line by line, and a table may be added to in
several places. What may be added depends on how the table came about: by its
own header, on the way to a header further down, or by a dotted key. A table
that had a header is closed to dotted keys from outside; a table made by dotted
keys can only be added to by dotted keys; and a header can be given once.

The entries of a table are in the order in which they were completed, so a
table with a header comes after what was written before the end of its lines.
-/

namespace BuildVariants.Toml

/-- How a table came about. -/
inductive Origin
  /-- By a header of its own. The root and inline tables count as such. -/
  | header
  /-- On the way to a header further down. -/
  | implied
  /-- By a dotted key. -/
  | dotted
deriving DecidableEq, Repr

/-- What a name stands for in a table under construction. -/
inductive Node
  /-- A finished value. -/
  | value (data : Data)
  | table (origin : Origin) (entries : List (String × Node))
  /-- Tables under one header, each of them begun anew. -/
  | tables (items : List (List (String × Node)))
deriving Inhabited

/-- The entries of a table under construction. -/
abbrev Entries := List (String × Node)

namespace Node

mutual
/-- What was built, as data. -/
def toData : Node → Data
  | value data => data
  | table _ entries => .map (entriesToData entries)
  | tables items => .list (itemsToData items)
/-- The entries that were built, as data. -/
def entriesToData : List (String × Node) → List (String × Data)
  | [] => []
  | (name, node) :: rest => (name, node.toData) :: entriesToData rest
/-- The tables that were built, as data. -/
def itemsToData : List (List (String × Node)) → List Data
  | [] => []
  | entries :: rest => .map (entriesToData entries) :: itemsToData rest
end

end Node

namespace Entries

/-- The entries with the node of a name replaced. -/
def replace (name : String) (node : Node) (entries : Entries) : Entries :=
  entries.map fun entry => if entry.1 = name then (name, node) else entry

/-- Change the table at a path below a table with the given origin and
entries. Tables that are missing on the way are made; of tables under one
header the last one is meant. A dotted key does not go through a table that
had a header. -/
def modifyAt {α : Type} (byDots : Bool) (change : Origin → Entries → Option (Entries × α)) :
    List String → Origin → Entries → Option (Entries × α)
  | [], origin, entries => change origin entries
  | name :: path, _, entries =>
    match entries.lookup name with
    | none => do
      let made := if byDots then Origin.dotted else .implied
      let (below, result) ← modifyAt byDots change path made []
      some (entries ++ [(name, .table made below)], result)
    | some (.value _) => none
    | some (.table origin below) =>
      if byDots ∧ origin = .header then none
      else do
        let (below, result) ← modifyAt byDots change path origin below
        some (entries.replace name (.table origin below), result)
    | some (.tables items) =>
      match items.getLast? with
      | none => none
      | some last => do
        let (last, result) ← modifyAt byDots change path .header last
        some (entries.replace name (.tables (items.dropLast ++ [last])), result)

/-- Set a key, which may be dotted. A dotted key sets its last part in a table
made by dotted keys, a plain key in one that was not, and no key is set
twice. -/
def setKey (path : List String) (name : String) (data : Data) (entries : Entries) :
    Option Entries :=
  (modifyAt true set path .header entries).map (·.1)
where
  /-- Set the last part in its table. -/
  set (origin : Origin) (entries : Entries) : Option (Entries × Unit) :=
    if (path.isEmpty ↔ origin = .dotted) ∨ (entries.lookup name).isSome then none
    else some (entries ++ [(name, .value data)], ())

/-- Begin a table with a header: its entries so far, which are those of a table
that was made on the way to another header. Such a table is taken out until it
is complete. -/
def openTable (path : List String) (name : String) (entries : Entries) :
    Option (Entries × Entries) :=
  modifyAt false take path .header entries
where
  /-- Take the table out of the one that holds it. -/
  take (_ : Origin) (entries : Entries) : Option (Entries × Entries) :=
    match entries.lookup name with
    | none => some (entries, [])
    | some (.table .implied below) => some (entries.filter (·.1 ≠ name), below)
    | some _ => none

/-- Put a completed table with a header at its place, behind the other
entries. -/
def closeTable (path : List String) (name : String) (entries table : Entries) : Option Entries :=
  (modifyAt false (fun _ entries => some (entries ++ [(name, .table .header table)], ()))
    path .header entries).map (·.1)

/-- Begin one more table under a header of several. -/
def openItem (path : List String) (name : String) (entries : Entries) : Option Entries :=
  (modifyAt false begin path .header entries).map (·.1)
where
  /-- Find the tables under the header, or make room for them. -/
  begin (_ : Origin) (entries : Entries) : Option (Entries × Unit) :=
    match entries.lookup name with
    | none => some (entries ++ [(name, .tables [])], ())
    | some (.tables _) => some (entries, ())
    | some _ => none

/-- Put one more completed table behind the others under its header. -/
def closeItem (path : List String) (name : String) (entries table : Entries) : Option Entries :=
  (modifyAt false add path .header entries).map (·.1)
where
  /-- Add the table to those under the header. -/
  add (_ : Origin) (entries : Entries) : Option (Entries × Unit) :=
    match entries.lookup name with
    | some (.tables items) => some (entries.replace name (.tables (items ++ [table])), ())
    | _ => none

end Entries

/-! ## The state between two lines -/

/-- What the lines from a header on belong to. -/
inductive Section
  /-- The root table, before the first header. -/
  | root
  /-- A table with a header. -/
  | table (path : List String) (name : String)
  /-- One of several tables under a header. -/
  | item (path : List String) (name : String)

/-- A text that has been read up to some line. -/
structure Draft where
  /-- The root table without what is under way. -/
  root : Entries
  /-- Where the table under way belongs. -/
  place : Section
  /-- The table under way. -/
  current : Entries

namespace Draft

/-- Nothing has been read. -/
def start : Draft := ⟨[], .root, []⟩

/-- The root table with the table under way put at its place. -/
def close? (draft : Draft) : Option Entries :=
  match draft.place with
  | .root => some draft.current
  | .table path name => draft.root.closeTable path name draft.current
  | .item path name => draft.root.closeItem path name draft.current

/-- Set a key of the table under way. -/
def setKey? (path : List String) (name : String) (data : Data) (draft : Draft) : Option Draft :=
  (draft.current.setKey path name data).map fun current => { draft with current }

/-- Go on with a table that has a header. -/
def openTable? (path : List String) (name : String) (draft : Draft) : Option Draft := do
  let root ← draft.close?
  let (root, current) ← root.openTable path name
  some ⟨root, .table path name, current⟩

/-- Go on with one more table under a header. -/
def openItem? (path : List String) (name : String) (draft : Draft) : Option Draft := do
  let root ← draft.close?
  let root ← root.openItem path name
  some ⟨root, .item path name, []⟩

end Draft

end BuildVariants.Toml
