import BuildVariants.Text.Unprintable

/-!
# A text as a message quotes it

A message that quotes a text puts it in double quotes, with a backslash before
a quote or a backslash, the usual short names for tab, line ends and null, and
the code point of any other character that is not shown as it is.
-/

namespace BuildVariants.Text

/-- The hexadecimal digits of a number, in lower case and without leading
zeros. -/
def hexDigits (n : Nat) : List Char := Nat.toDigits 16 n

/-- A character as it stands between the quotes. -/
def quotedChar (c : Char) : List Char :=
  if c = '\x00' then ['\\', '0']
  else if c = '\t' then ['\\', 't']
  else if c = '\r' then ['\\', 'r']
  else if c = '\n' then ['\\', 'n']
  else if c = '"' ∨ c = '\\' then ['\\', c]
  else if isUnprintable c then "\\u\x7b".toList ++ hexDigits c.toNat ++ ['\x7d']
  else [c]

/-- A text in double quotes. -/
def quoted (text : String) : String :=
  .ofList ('"' :: text.toList.flatMap quotedChar ++ ['"'])

end BuildVariants.Text
