import BuildVariants.Data
import BuildVariants.Decimal.Shortest

/-!
# Numbers and dates in TOML

An integer is decimal, without leading zeros, or hexadecimal, octal or binary
without a sign; it must fit in 64 bits. A number with a fraction or an exponent
is held in double precision, where only a negative one may be too large.
Underscores may stand between digits.

A date, a time of day or both are read as a map with one entry under a name of
its own, whose value is the date in its standard spelling.
-/

namespace BuildVariants.Toml

open Text.Numeral (isDigit value)

/-- One or more digits of a base at the start, single underscores between
them; the underscores are dropped. -/
def digits? (isDigit : Char → Bool) : List Char → Option (List Char × List Char)
  | [] => none
  | c :: cs =>
    if isDigit c then
      match cs with
      | '_' :: cs => (digits? isDigit cs).map fun read => (c :: read.1, read.2)
      | [] => some ([c], [])
      | d :: cs =>
        if isDigit d then (digits? isDigit (d :: cs)).map fun read => (c :: read.1, read.2)
        else some ([c], d :: cs)
    else none

/-- A sign at the start, if there is one: whether it is a minus. -/
def sign : List Char → Bool × List Char
  | '-' :: cs => (true, cs)
  | '+' :: cs => (false, cs)
  | cs => (false, cs)

/-- A decimal number without leading zeros at the start, as its digits. -/
def whole? : List Char → Option (List Char × List Char)
  | '0' :: cs => some (['0'], cs)
  | cs => digits? isDigit cs

/-! ## Integers -/

/-- The value of a digit of a base up to sixteen. -/
def digitOf (c : Char) : Nat :=
  let n := c.toNat
  if n ≤ 57 then n - 48 else if n ≤ 70 then n - 55 else n - 87

/-- The digits of each base. -/
def isHex (c : Char) : Bool := isDigit c || ('a' ≤ c && c ≤ 'f') || ('A' ≤ c && c ≤ 'F')

/-- A number in a base other than ten, after the letter of its base. -/
def based? (base : Nat) (isDigit : Char → Bool) (cs : List Char) : Option (Int × List Char) := do
  let (digits, cs) ← digits? isDigit cs
  some ((digits.foldl (fun n c => base * n + digitOf c) 0 : Nat), cs)

/-- An integer at the start. -/
def integer? (cs : List Char) : Option (Data × List Char) := do
  let (n, cs) ← match cs with
    | '0' :: 'x' :: cs => based? 16 isHex cs
    | '0' :: 'o' :: cs => based? 8 (fun c => '0' ≤ c && c ≤ '7') cs
    | '0' :: 'b' :: cs => based? 2 (fun c => c = '0' || c = '1') cs
    | cs =>
      let (negative, cs) := sign cs
      (whole? cs).map fun read =>
        let n : Int := value read.1
        (if negative then -n else n, read.2)
  if (Text.Numeral.toWord? n).isSome then some (.int n, cs) else none

/-! ## Numbers with a fraction or an exponent -/

/-- The exponent at the start. -/
def exponent? : List Char → Option (Int × List Char)
  | c :: cs =>
    if c = 'e' ∨ c = 'E' then
      let (negative, cs) := sign cs
      (digits? isDigit cs).map fun read =>
        let n : Int := value read.1
        (if negative then -n else n, read.2)
    else none
  | [] => none

/-- The number with the given digits before and after its point and the given
exponent, as data. -/
def real? (negative : Bool) (whole places : List Char) (exponent : Int) : Option Data :=
  let magnitude := Decimal.toDouble (value (whole ++ places)) (exponent - places.length)
  if magnitude = .infinite ∧ ¬ negative then none
  else some (.real (magnitude.write .plain negative))

/-- A number with a fraction, an exponent or both at the start. -/
def float? (cs : List Char) : Option (Data × List Char) := do
  let (negative, cs) := sign cs
  match cs with
  | 'i' :: 'n' :: 'f' :: cs => some (.real (if negative then "-inf" else "inf"), cs)
  | 'n' :: 'a' :: 'n' :: cs => some (.real "NaN", cs)
  | cs =>
    let (whole, cs) ← whole? cs
    match cs with
    | '.' :: cs =>
      let (places, cs) ← digits? isDigit cs
      let (exponent, cs) := (exponent? cs).getD (0, cs)
      (real? negative whole places exponent).map (·, cs)
    | cs =>
      let (exponent, cs) ← exponent? cs
      (real? negative whole [] exponent).map (·, cs)

/-! ## Dates -/

/-- Exactly `count` digits at the start. -/
def exactly? (count : Nat) (cs : List Char) : Option (List Char × List Char) :=
  let digits := cs.take count
  if digits.length = count ∧ digits.all isDigit then some (digits, cs.drop count) else none

/-- Two digits at the start that denote a number up to `most`. -/
def twoDigits? (most : Nat) (cs : List Char) : Option (List Char × List Char) := do
  let (digits, cs) ← exactly? 2 cs
  if value digits ≤ most then some (digits, cs) else none

/-- A given character at the start. -/
def char? (c : Char) : List Char → Option (List Char)
  | d :: cs => if d = c then some cs else none
  | [] => none

/-- The days of a month. -/
def daysOf (year month : Nat) : Nat :=
  if month = 2 then
    if year % 4 = 0 ∧ (year % 100 ≠ 0 ∨ year % 400 = 0) then 29 else 28
  else if month = 4 ∨ month = 6 ∨ month = 9 ∨ month = 11 then 30
  else 31

/-- A date at the start. -/
def date? (cs : List Char) : Option (List Char × List Char) := do
  let (year, cs) ← exactly? 4 cs
  let cs ← char? '-' cs
  let (month, cs) ← twoDigits? 12 cs
  let cs ← char? '-' cs
  let (day, cs) ← twoDigits? 31 cs
  if 1 ≤ value month ∧ 1 ≤ value day ∧ value day ≤ daysOf (value year) (value month) then
    some (year ++ '-' :: month ++ '-' :: day, cs)
  else none

/-- A fraction of a second at the start, as it is spelled: up to nine digits,
without zeros at the end. -/
def subsecond (cs : List Char) : List Char × List Char :=
  match cs with
  | '.' :: rest =>
    match rest.takeWhile isDigit with
    | [] => ([], cs)
    | digits =>
      let kept := ((digits.take 9).reverse.dropWhile (· = '0')).reverse
      (if kept = [] then [] else '.' :: kept, rest.dropWhile isDigit)
  | _ => ([], cs)

/-- A time of day at the start. -/
def time? (cs : List Char) : Option (List Char × List Char) := do
  let (hour, cs) ← twoDigits? 23 cs
  let cs ← char? ':' cs
  let (minute, cs) ← twoDigits? 59 cs
  let cs ← char? ':' cs
  let (second, cs) ← twoDigits? 60 cs
  let (fraction, cs) := subsecond cs
  some (hour ++ ':' :: minute ++ ':' :: second ++ fraction, cs)

/-- The distance from universal time at the start. -/
def offset? : List Char → Option (List Char × List Char)
  | c :: cs =>
    if c = 'Z' ∨ c = 'z' then some (['Z'], cs)
    else if c = '+' ∨ c = '-' then do
      let (hour, cs) ← twoDigits? 23 cs
      let cs ← char? ':' cs
      let (minute, cs) ← twoDigits? 59 cs
      let sign := if value hour = 0 ∧ value minute = 0 then '+' else c
      some (sign :: hour ++ ':' :: minute, cs)
    else none
  | [] => none

/-- The time behind a date, with the character that separates them. -/
def timeAfterDate? : List Char → Option (List Char × List Char)
  | c :: cs =>
    if c = 'T' ∨ c = 't' ∨ c = ' ' then do
      let (time, cs) ← time? cs
      let (offset, cs) := (offset? cs).getD ([], cs)
      some ('T' :: time ++ offset, cs)
    else none
  | [] => none

/-- A date, a time of day or both at the start. -/
def dateTime? (cs : List Char) : Option (Data × List Char) :=
  match date? cs with
  | some (date, cs) =>
    let (time, cs) := (timeAfterDate? cs).getD ([], cs)
    some (.date (.ofList (date ++ time)), cs)
  | none => (time? cs).map fun read => (.date (.ofList read.1), read.2)

/-- A date or a number of any kind at the start. -/
def number? (cs : List Char) : Option (Data × List Char) :=
  (dateTime? cs).or ((float? cs).or (integer? cs))

end BuildVariants.Toml
