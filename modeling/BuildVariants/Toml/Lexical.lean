/-!
# The words of a TOML text

Blanks, line ends, comments, strings and keys. Each reader takes the characters
that are left and gives what it read together with the rest, or nothing if the
text does not go on that way. Whatever is wrong with a TOML text is one and the
same error, so readers do not say why they fail.
-/

namespace BuildVariants.Toml

/-- Blanks inside a line. -/
def isBlank (c : Char) : Bool := c = ' ' ∨ c = '\t'

/-- The text without the blanks at its start. -/
def skipBlanks (cs : List Char) : List Char := cs.dropWhile isBlank

/-- A line end at the start: a line feed, by itself or after a carriage
return. -/
def newline? : List Char → Option (List Char)
  | '\n' :: cs => some cs
  | '\r' :: '\n' :: cs => some cs
  | _ => none

/-- Whether a character can stand in a comment or a string: no control
character but the tab. -/
def isPrintable (c : Char) : Bool :=
  c = '\t' ∨ (0x20 ≤ c.toNat ∧ c.toNat ≠ 0x7F)

/-- The text from the end of its first line on, if that line starts with a
comment. -/
def skipComment : List Char → List Char
  | '#' :: cs => cs.dropWhile isPrintable
  | cs => cs

/-- The end of a line at the start: blanks and a comment, and then a line end
or the end of the text. -/
def lineEnd? (cs : List Char) : Option (List Char) :=
  match skipComment (skipBlanks cs) with
  | [] => some []
  | rest => newline? rest

/-- The text without the blanks, line ends and comments at its start. -/
def skipLines : Nat → List Char → List Char
  | 0, cs => cs
  | fuel + 1, cs =>
    match skipBlanks cs with
    | '#' :: rest => skipLines fuel (rest.dropWhile isPrintable)
    | rest =>
      match newline? rest with
      | some rest => skipLines fuel rest
      | none => rest

/-! ## Strings -/

/-- The value of a hexadecimal digit. -/
def hexValue? (c : Char) : Option Nat :=
  let n := c.toNat
  if 48 ≤ n ∧ n ≤ 57 then some (n - 48)
  else if 97 ≤ n ∧ n ≤ 102 then some (n - 87)
  else if 65 ≤ n ∧ n ≤ 70 then some (n - 55)
  else none

/-- The character whose code point is given by the next `count` hexadecimal
digits. -/
def codePoint? : Nat → Nat → List Char → Option (Char × List Char)
  | 0, code, cs => if code.isValidChar then some (Char.ofNat code, cs) else none
  | count + 1, code, cs =>
    match cs with
    | c :: cs => (hexValue? c).bind fun digit => codePoint? count (code * 16 + digit) cs
    | [] => none

/-- The character of an escape, without its backslash. -/
def escape? : List Char → Option (Char × List Char)
  | 'b' :: cs => some ('\x08', cs)
  | 't' :: cs => some ('\t', cs)
  | 'n' :: cs => some ('\n', cs)
  | 'f' :: cs => some ('\x0c', cs)
  | 'r' :: cs => some ('\r', cs)
  | '"' :: cs => some ('"', cs)
  | '\\' :: cs => some ('\\', cs)
  | 'u' :: cs => codePoint? 4 0 cs
  | 'U' :: cs => codePoint? 8 0 cs
  | _ => none

/-- The rest of a string on one line, after its opening quote. The characters
read so far are kept back to front. -/
def basicBody? : Nat → List Char → List Char → Option (String × List Char)
  | 0, _, _ => none
  | fuel + 1, soFar, cs =>
    match cs with
    | '"' :: cs => some (.ofList soFar.reverse, cs)
    | '\\' :: cs => do
      let (c, cs) ← escape? cs
      basicBody? fuel (c :: soFar) cs
    | c :: cs => if isPrintable c then basicBody? fuel (c :: soFar) cs else none
    | [] => none

/-- The rest of a literal string on one line, after its opening quote. -/
def literalBody? (cs : List Char) : Option (String × List Char) :=
  let inside := cs.takeWhile fun c => isPrintable c && c ≠ '\''
  match cs.drop inside.length with
  | '\'' :: rest => some (.ofList inside, rest)
  | _ => none

/-- The number of quotes at the start. -/
def countQuotes (quote : Char) (cs : List Char) : Nat := (cs.takeWhile (· = quote)).length

/-- An escaped line end, without its backslash: blanks and a line end, and all
blanks and line ends that follow. -/
def escapedNewline? (cs : List Char) : Option (List Char) :=
  (newline? (skipBlanks cs)).map fun rest => skip rest.length rest
where
  /-- The text without the blanks and line ends at its start. -/
  skip : Nat → List Char → List Char
    | 0, cs => cs
    | fuel + 1, cs =>
      match newline? (skipBlanks cs) with
      | some rest => skip fuel rest
      | none => skipBlanks cs

/-- The rest of a string over several lines, after its opening quotes. Up to
two quotes may stand inside, also just before the three that close it. A
literal string has no escapes. Every line end becomes a line feed. -/
def multilineBody? (quote : Char) (literal : Bool) :
    Nat → List Char → List Char → Option (String × List Char)
  | 0, _, _ => none
  | fuel + 1, soFar, cs =>
    match cs with
    | [] => none
    | c :: rest =>
      if c = quote then
        let count := countQuotes quote cs
        if 3 ≤ count then
          let last := min count 5
          some (.ofList (soFar.reverse ++ List.replicate (last - 3) quote), cs.drop last)
        else
          multilineBody? quote literal fuel (List.replicate count quote ++ soFar) (cs.drop count)
      else if c = '\\' ∧ ¬ literal then
        match escapedNewline? rest with
        | some rest => multilineBody? quote literal fuel soFar rest
        | none => do
          let (c, rest) ← escape? rest
          multilineBody? quote literal fuel (c :: soFar) rest
      else
        match newline? cs with
        | some rest => multilineBody? quote literal fuel ('\n' :: soFar) rest
        | none =>
          if isPrintable c then multilineBody? quote literal fuel (c :: soFar) rest else none

/-- A string over several lines, after its opening quotes; a line end just
after them is not part of it. -/
def multiline? (quote : Char) (literal : Bool) (cs : List Char) : Option (String × List Char) :=
  let body := (newline? cs).getD cs
  multilineBody? quote literal (body.length + 1) [] body

/-- A string of any kind at the start. -/
def string? : List Char → Option (String × List Char)
  | '"' :: '"' :: '"' :: cs => multiline? '"' false cs
  | '\'' :: '\'' :: '\'' :: cs => multiline? '\'' true cs
  | '"' :: cs => basicBody? (cs.length + 1) [] cs
  | '\'' :: cs => literalBody? cs
  | _ => none

/-! ## Keys -/

/-- Whether a character can stand in a key without quotes. -/
def isKeyChar (c : Char) : Bool := c.isAlphanum || c = '-' || c = '_'

/-- One part of a key at the start: bare, or a string on one line. -/
def keyPart? : List Char → Option (String × List Char)
  | '"' :: cs => basicBody? (cs.length + 1) [] cs
  | '\'' :: cs => literalBody? cs
  | cs =>
    match cs.takeWhile isKeyChar with
    | [] => none
    | name => some (.ofList name, cs.dropWhile isKeyChar)

/-- The parts of a key at the start, with the dots and blanks between them. -/
def keyParts? : Nat → List Char → Option (List String × List Char)
  | 0, _ => none
  | fuel + 1, cs => do
    let (part, cs) ← keyPart? (skipBlanks cs)
    match skipBlanks cs with
    | '.' :: cs => (keyParts? fuel cs).map fun read => (part :: read.1, read.2)
    | cs => some ([part], cs)

/-- How deep keys and values may nest. -/
def maxDepth : Nat := 80

/-- A key at the start, with the blanks around it: the parts before the last,
and the last. -/
def key? (cs : List Char) : Option (List String × String × List Char) := do
  let (parts, cs) ← keyParts? (cs.length + 1) cs
  let last ← parts.getLast?
  if parts.length < maxDepth then some (parts.dropLast, last, cs) else none

end BuildVariants.Toml
