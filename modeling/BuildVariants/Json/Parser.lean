import BuildVariants.Data
import BuildVariants.Decimal.Shortest
import BuildVariants.Decimal.Stepwise
import BuildVariants.NameMap

/-!
# Reading JSON

The reader of JSON texts. Entries of an object are visited in the order of
their names, and of two entries of one name the last one counts.

A number is an integer if it is written without fraction and exponent and fits
in 64 bits, signed or unsigned; every other number, the negative zero among
them, is brought to double precision in steps and shown in its compact form.
-/

namespace BuildVariants.Json

/-- The text without the blanks at its start. -/
def skipBlanks (cs : List Char) : List Char :=
  cs.dropWhile fun c => c = ' ' ∨ c = '\n' ∨ c = '\r' ∨ c = '\t'

/-- The value of a hexadecimal digit. -/
def hexValue? (c : Char) : Option Nat :=
  let n := c.toNat
  if 48 ≤ n ∧ n ≤ 57 then some (n - 48)
  else if 97 ≤ n ∧ n ≤ 102 then some (n - 87)
  else if 65 ≤ n ∧ n ≤ 70 then some (n - 55)
  else none

/-- The four digits of a `\u` escape. -/
def hexFour? : List Char → Option (Nat × List Char)
  | a :: b :: c :: d :: cs => do
    let a ← hexValue? a
    let b ← hexValue? b
    let c ← hexValue? c
    let d ← hexValue? d
    some (((a * 16 + b) * 16 + c) * 16 + d, cs)
  | _ => none

/-- The character of an escape, without its backslash. A character outside of
the basic plane is written as two escapes. -/
def escape? : List Char → Option (Char × List Char)
  | 'n' :: cs => some ('\n', cs)
  | 't' :: cs => some ('\t', cs)
  | 'r' :: cs => some ('\r', cs)
  | 'b' :: cs => some ('\x08', cs)
  | 'f' :: cs => some ('\x0c', cs)
  | 'u' :: cs => do
    let (high, cs) ← hexFour? cs
    if 0xD800 ≤ high ∧ high < 0xDC00 then
      match cs with
      | '\\' :: 'u' :: cs => do
        let (low, cs) ← hexFour? cs
        if 0xDC00 ≤ low ∧ low < 0xE000 then
          some (Char.ofNat (0x10000 + (high - 0xD800) * 0x400 + (low - 0xDC00)), cs)
        else none
      | _ => none
    else if 0xDC00 ≤ high ∧ high < 0xE000 then none
    else some (Char.ofNat high, cs)
  | c :: cs => if c = '"' ∨ c = '\\' ∨ c = '/' then some (c, cs) else none
  | [] => none

/-- The rest of a text after its opening quote; the characters read so far are
kept back to front. -/
def textBody? : Nat → List Char → List Char → Option (String × List Char)
  | 0, _, _ => none
  | fuel + 1, soFar, cs =>
    match cs with
    | '"' :: cs => some (.ofList soFar.reverse, cs)
    | '\\' :: cs => do
      let (c, cs) ← escape? cs
      textBody? fuel (c :: soFar) cs
    | c :: cs => if c.toNat < 0x20 then none else textBody? fuel (c :: soFar) cs
    | [] => none

/-- A text, from after its opening quote on. -/
def text? (cs : List Char) : Option (String × List Char) := textBody? (cs.length + 1) [] cs

/-- The digits at the start and what follows them. -/
def takeDigits (cs : List Char) : List Char × List Char :=
  (cs.takeWhile Text.Numeral.isDigit, cs.dropWhile Text.Numeral.isDigit)

/-- The fraction at the start, without its point. -/
def fraction? : List Char → Option (Option (List Char) × List Char)
  | '.' :: cs =>
    match takeDigits cs with
    | ([], _) => none
    | (digits, cs) => some (some digits, cs)
  | cs => some (none, cs)

/-- The exponent at the start. -/
def exponent? : List Char → Option (Option Int × List Char)
  | c :: cs =>
    if c = 'e' ∨ c = 'E' then
      let (negative, cs) := match cs with
        | '-' :: cs => (true, cs)
        | '+' :: cs => (false, cs)
        | cs => (false, cs)
      match takeDigits cs with
      | ([], _) => none
      | (digits, cs) =>
        let n : Int := Text.Numeral.value digits
        some (some (if negative then -n else n), cs)
    else some (none, c :: cs)
  | [] => some (none, [])

/-- A number of the given sign. -/
def number? (negative : Bool) (cs : List Char) : Option (Data × List Char) := do
  let (whole, cs) := takeDigits cs
  if whole = [] ∨ (whole.head? = some '0' ∧ 1 < whole.length) then none
  let (fraction, cs) ← fraction? cs
  let (exponent, cs) ← exponent? cs
  let n := Text.Numeral.value whole
  let integral := fraction.isNone && exponent.isNone
  if integral ∧ ¬ negative ∧ n < UInt64.size then some (.int n, cs)
  else if integral ∧ negative ∧ 0 < n ∧ (Text.Numeral.toWord? (-n)).isSome then
    some (.int (-n), cs)
  else
    let (significand, power) := Decimal.gatherParts whole (fraction.getD [])
    let magnitude := Decimal.toDoubleInSteps significand (power + exponent.getD 0)
    if magnitude = .infinite then none
    else some (.real (magnitude.write .compact negative), cs)

mutual
/-- A value at the start. -/
def value? : Nat → List Char → Option (Data × List Char)
  | 0, _ => none
  | fuel + 1, cs =>
    match skipBlanks cs with
    | 'n' :: 'u' :: 'l' :: 'l' :: cs => some (.null, cs)
    | 't' :: 'r' :: 'u' :: 'e' :: cs => some (.bool true, cs)
    | 'f' :: 'a' :: 'l' :: 's' :: 'e' :: cs => some (.bool false, cs)
    | '"' :: cs => (text? cs).map fun read => (.text read.1, read.2)
    | '-' :: cs => number? true cs
    | '[' :: cs =>
      match skipBlanks cs with
      | ']' :: cs => some (.list [], cs)
      | cs => (items? fuel cs).map fun read => (.list read.1, read.2)
    | '\x7b' :: cs =>
      match skipBlanks cs with
      | '\x7d' :: cs => some (.map [], cs)
      | cs => (members? fuel cs).map fun read => (.map (NameMap.ofList read.1).entries, read.2)
    | cs => number? false cs
/-- One or more items and the closing bracket. -/
def items? : Nat → List Char → Option (List Data × List Char)
  | 0, _ => none
  | fuel + 1, cs => do
    let (item, cs) ← value? fuel cs
    match skipBlanks cs with
    | ',' :: cs => (items? fuel cs).map fun read => (item :: read.1, read.2)
    | ']' :: cs => some ([item], cs)
    | _ => none
/-- One or more members and the closing brace. -/
def members? : Nat → List Char → Option (List (String × Data) × List Char)
  | 0, _ => none
  | fuel + 1, cs =>
    match skipBlanks cs with
    | '"' :: cs => do
      let (name, cs) ← text? cs
      match skipBlanks cs with
      | ':' :: cs => do
        let (value, cs) ← value? fuel cs
        match skipBlanks cs with
        | ',' :: cs => (members? fuel cs).map fun read => ((name, value) :: read.1, read.2)
        | '\x7d' :: cs => some ([(name, value)], cs)
        | _ => none
      | _ => none
    | _ => none
end

/-- The data of a JSON text. Every step of the reader uses up a character, so
the length of the text bounds the steps. -/
def parse? (text : String) : Option Data := do
  let cs := text.toList
  let (data, rest) ← value? (cs.length + 1) cs
  if skipBlanks rest = [] then some data else none

end BuildVariants.Json
