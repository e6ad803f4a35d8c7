import BuildVariants.Data

/-!
# Printing JSON

Data is printed either over several lines, each level indented by two spaces
and an empty list or map kept on its line, or compactly on one line. Entries
are printed in the order of the map. In a text only what JSON requires is
escaped: quotes, backslashes and control characters.
-/

namespace BuildVariants.Json

/-- A digit of a `\u` escape. -/
def hexDigit (n : Nat) : Char := "0123456789abcdef".toList.getD n '0'

/-- A character as it stands in a JSON text. -/
def escapeChar (c : Char) : List Char :=
  if c = '"' ∨ c = '\\' then ['\\', c]
  else if c = '\n' then ['\\', 'n']
  else if c = '\r' then ['\\', 'r']
  else if c = '\t' then ['\\', 't']
  else if c = '\x08' then ['\\', 'b']
  else if c = '\x0c' then ['\\', 'f']
  else if c.toNat < 0x20 then
    ['\\', 'u', '0', '0', hexDigit (c.toNat / 16), hexDigit (c.toNat % 16)]
  else [c]

/-- A text with the quotes around it. -/
def quote (text : String) : String :=
  .ofList ('"' :: text.toList.flatMap escapeChar ++ ['"'])

/-- Data without parts, as both styles print it. -/
def scalar : Data → String
  | .null => "null"
  | .bool value => if value then "true" else "false"
  | .int value => Text.Numeral.ofInt value
  | .real shown => shown
  | .text value => quote value
  | .list _ => "[]"
  | .map _ => "\x7b\x7d"

/-! ## Over several lines -/

/-- The end of a line and the indentation of the next. -/
def newline (depth : Nat) : String := "\n" ++ .ofList (List.replicate (2 * depth) ' ')

mutual
/-- Data at a depth; its first line is not indented. -/
def prettyAt (depth : Nat) : Data → String
  | .list (first :: rest) =>
    "[" ++ newline (depth + 1) ++ prettyAt (depth + 1) first ++ prettyItems (depth + 1) rest
      ++ newline depth ++ "]"
  | .map ((name, first) :: rest) =>
    "\x7b" ++ newline (depth + 1) ++ quote name ++ ": " ++ prettyAt (depth + 1) first
      ++ prettyEntries (depth + 1) rest ++ newline depth ++ "\x7d"
  | data => scalar data
/-- The items after the first, each after a comma on a line of its own. -/
def prettyItems (depth : Nat) : List Data → String
  | [] => ""
  | item :: rest => "," ++ newline depth ++ prettyAt depth item ++ prettyItems depth rest
/-- The entries after the first, each after a comma on a line of its own. -/
def prettyEntries (depth : Nat) : List (String × Data) → String
  | [] => ""
  | (name, value) :: rest =>
    "," ++ newline depth ++ quote name ++ ": " ++ prettyAt depth value ++ prettyEntries depth rest
end

/-- Data over several lines. -/
def pretty (data : Data) : String := prettyAt 0 data

/-! ## On one line -/

mutual
/-- Data on one line, without blanks. -/
def compact : Data → String
  | .list (first :: rest) => "[" ++ compact first ++ compactItems rest ++ "]"
  | .map ((name, first) :: rest) =>
    "\x7b" ++ quote name ++ ":" ++ compact first ++ compactEntries rest ++ "\x7d"
  | data => scalar data
/-- The items after the first, each after a comma. -/
def compactItems : List Data → String
  | [] => ""
  | item :: rest => "," ++ compact item ++ compactItems rest
/-- The entries after the first, each after a comma. -/
def compactEntries : List (String × Data) → String
  | [] => ""
  | (name, value) :: rest => "," ++ quote name ++ ":" ++ compact value ++ compactEntries rest
end

end BuildVariants.Json
