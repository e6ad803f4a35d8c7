import BuildVariants.Text.Pieces

/-!
# Words of a shell command

A value that goes into a shell command is written so that the shell reads it
back as it is. `quote` leaves a value alone if it consists of harmless
characters, and puts it between single quotes otherwise, where everything but
a single quote stands for itself; a single quote inside is written by closing
the quotes, escaping it with a backslash and opening them again.

`words?` is the other side, the part of the shell's own reading that such
commands need: blanks separate words, single quotes take what they enclose
literally, a backslash outside of them takes the next character literally, and
any other character that means something to the shell is refused.
-/

namespace BuildVariants.Text.Shell

/-! ## Writing -/

/-- Whether a character can stand in a word unquoted: the ASCII letters and
digits, and `/`, `.`, `_`, `-`, `+`, `:`, `=`, `@`. -/
def isHarmless (c : Char) : Bool := c.isAlphanum || "/._-+:=@".toList.contains c

/-- The characters of a value as they stand inside single quotes. -/
def escapeQuotes : List Char → List Char
  | [] => []
  | c :: cs =>
    if c = '\'' then '\'' :: '\\' :: '\'' :: '\'' :: escapeQuotes cs
    else c :: escapeQuotes cs

/-- The characters of a value as one word of a command. -/
def quoteChars (cs : List Char) : List Char :=
  if cs.all isHarmless then cs else '\'' :: escapeQuotes cs ++ ['\'']

/-- A value as one word of a command. -/
def quote (value : String) : String := .ofList (quoteChars value.toList)

/-! ## Reading -/

/-- Whether an unquoted character separates words. -/
def isSeparator (c : Char) : Bool := c = ' ' ∨ c = '\t'

/-- Whether a character means something to the shell where it stands
unquoted: operators, expansions, patterns, comments, quotes and line ends. -/
def isSpecial (c : Char) : Bool := "|&;<>()$`\\\"' \t\n*?[]#~!%^\x7b\x7d".toList.contains c

/-- Where the reader stands. -/
inductive State
  /-- Between two words. -/
  | between
  /-- Inside a word, outside of quotes. -/
  | word (soFar : List Char)
  /-- Inside single quotes. -/
  | quotes (soFar : List Char)
  /-- After a backslash outside of quotes. -/
  | escape (soFar : List Char)

/-- Read the words of a command from a state on; a word under way is kept
back to front. `none` if a quote or escape is left open or a special
character stands unquoted. -/
def wordsFrom : State → List Char → Option (List (List Char))
  | .between, [] => some []
  | .word w, [] => some [w.reverse]
  | .quotes _, [] => none
  | .escape _, [] => none
  | .quotes w, c :: cs =>
    if c = '\'' then wordsFrom (.word w) cs else wordsFrom (.quotes (c :: w)) cs
  | .escape w, c :: cs => wordsFrom (.word (c :: w)) cs
  | .between, c :: cs =>
    if isSeparator c then wordsFrom .between cs
    else if c = '\'' then wordsFrom (.quotes []) cs
    else if c = '\\' then wordsFrom (.escape []) cs
    else if isSpecial c then none
    else wordsFrom (.word [c]) cs
  | .word w, c :: cs =>
    if isSeparator c then (wordsFrom .between cs).map (w.reverse :: ·)
    else if c = '\'' then wordsFrom (.quotes w) cs
    else if c = '\\' then wordsFrom (.escape w) cs
    else if isSpecial c then none
    else wordsFrom (.word (c :: w)) cs

/-- The words that a shell reads from a command, if it reads plain words
only. -/
def words? (command : String) : Option (List String) :=
  (wordsFrom .between command.toList).map (·.map .ofList)

end BuildVariants.Text.Shell
