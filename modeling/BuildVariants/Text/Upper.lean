import BuildVariants.Text.UpperTable

/-!
# Upper case

A text is turned into upper case character by character: a character that has
an upper case of its own is replaced by it, which may be several characters,
and every other character stays.
-/

namespace BuildVariants.Text

/-- The upper case of a character: one character, or a few. -/
def upperChar (c : Char) : List Char :=
  let n := c.toNat
  match upperRuns.findSome? (·.image? n) with
  | some image => [Char.ofNat image]
  | none =>
    match upperExpansions.lookup n with
    | some images => images.map Char.ofNat
    | none => [c]

/-- A text in upper case. -/
def upper (text : String) : String := .ofList (text.toList.flatMap upperChar)

end BuildVariants.Text
