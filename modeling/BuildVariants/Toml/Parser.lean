import BuildVariants.Toml.Lexical
import BuildVariants.Toml.Number
import BuildVariants.Toml.Table

/-!
# Reading TOML

The reader of TOML texts: values with the lists and inline tables that nest in
them, and the lines of a text, which are headers and settings of keys. A byte
order mark at the start is skipped.

Every step uses up a character, so the length of the text bounds the steps.
Lists and inline tables may nest less than eighty deep.
-/

namespace BuildVariants.Toml

/-! ## Values -/

mutual
/-- A value at the start, inside `depth` lists and inline tables. -/
def value? : Nat → Nat → List Char → Option (Data × List Char)
  | 0, _, _ => none
  | fuel + 1, depth, cs =>
    match cs with
    | '"' :: _ => (string? cs).map fun read => (.text read.1, read.2)
    | '\'' :: _ => (string? cs).map fun read => (.text read.1, read.2)
    | 't' :: 'r' :: 'u' :: 'e' :: rest => some (.bool true, rest)
    | 'f' :: 'a' :: 'l' :: 's' :: 'e' :: rest => some (.bool false, rest)
    | '[' :: rest =>
      if depth + 1 < maxDepth then
        (items? fuel (depth + 1) rest).map fun read => (.list read.1, read.2)
      else none
    | '\x7b' :: rest =>
      if depth + 1 < maxDepth then
        match skipBlanks rest with
        | '\x7d' :: rest => some (.map [], rest)
        | rest =>
          (members? fuel (depth + 1) [] rest).map fun read =>
            (.map (Node.entriesToData read.1), read.2)
      else none
    | _ => number? cs
/-- The items of a list up to the closing bracket, with the blanks, line ends
and comments around them. A comma may follow the last one. -/
def items? : Nat → Nat → List Char → Option (List Data × List Char)
  | 0, _, _ => none
  | fuel + 1, depth, cs =>
    match skipLines cs.length cs with
    | ']' :: rest => some ([], rest)
    | cs => do
      let (item, cs) ← value? fuel depth cs
      match skipLines cs.length cs with
      | ',' :: rest => (items? fuel depth rest).map fun read => (item :: read.1, read.2)
      | ']' :: rest => some ([item], rest)
      | _ => none
/-- One or more settings of an inline table and the closing brace. -/
def members? : Nat → Nat → Entries → List Char → Option (Entries × List Char)
  | 0, _, _, _ => none
  | fuel + 1, depth, entries, cs => do
    let (path, name, cs) ← key? cs
    match cs with
    | '=' :: cs => do
      let (data, cs) ← value? fuel depth (skipBlanks cs)
      let entries ← entries.setKey path name data
      match skipBlanks cs with
      | ',' :: rest => members? fuel depth entries rest
      | '\x7d' :: rest => some (entries, rest)
      | _ => none
    | _ => none
end

/-! ## Lines -/

/-- A header, a setting of a key or an empty line at the start, and the end of
its line. -/
def line? (draft : Draft) (cs : List Char) : Option (Draft × List Char) :=
  match cs with
  | '[' :: '[' :: rest => do
    let (path, name, rest) ← key? rest
    match rest with
    | ']' :: ']' :: rest => do
      let rest ← lineEnd? rest
      (draft.openItem? path name).map (·, rest)
    | _ => none
  | '[' :: rest => do
    let (path, name, rest) ← key? rest
    match rest with
    | ']' :: rest => do
      let rest ← lineEnd? rest
      (draft.openTable? path name).map (·, rest)
    | _ => none
  | '#' :: _ => (lineEnd? cs).map (draft, ·)
  | _ =>
    match newline? cs with
    | some rest => some (draft, rest)
    | none => do
      let (path, name, rest) ← key? cs
      match rest with
      | '=' :: rest => do
        let rest := skipBlanks rest
        let (data, rest) ← value? (rest.length + 1) 0 rest
        let rest ← lineEnd? rest
        (draft.setKey? path name data).map (·, rest)
      | _ => none

/-- The lines of a text. -/
def lines? : Nat → Draft → List Char → Option Draft
  | 0, _, _ => none
  | fuel + 1, draft, cs =>
    match skipBlanks cs with
    | [] => some draft
    | rest => do
      let (draft, rest) ← line? draft rest
      lines? fuel draft rest

/-- A text without the byte order mark at its start. -/
def skipMark : List Char → List Char
  | '\ufeff' :: cs => cs
  | cs => cs

/-- The root table of a TOML text, its entries in the order in which they are
to be visited. -/
def parse? (text : String) : Option Data := do
  let cs := skipMark text.toList
  let draft ← lines? (cs.length + 1) .start cs
  let root ← draft.close?
  some (.map (Node.entriesToData root))

end BuildVariants.Toml
