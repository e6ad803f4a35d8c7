/-!
# Diagnostics

A diagnostic says what went wrong, adds facts about it and suggests what to
change:

```text
error: conflicting variants: '+cuda_hijack' requires '+cuda'.
  = note: rule `cuda-hijack-requires-cuda` matched: +cuda_hijack ~cuda
  = help: Adjust the selection so the rule no longer matches
```

On a terminal the three labels are coloured. `stripColors` takes colours out
of a text again.
-/

namespace BuildVariants

/-- A report on an error. -/
structure Diagnostic where
  message : String
  /-- Facts about the failure. -/
  notes : List String
  /-- Suggested fixes. -/
  helps : List String
deriving DecidableEq, Repr

/-- The labels of a diagnostic's lines. -/
inductive Label
  | error
  | note
  | help
deriving DecidableEq, Repr

/-- The word of a label. -/
def Label.word : Label → String
  | error => "error"
  | note => "note"
  | help => "help"

/-- The terminal's code for the colour of a label. -/
def Label.color : Label → String
  | error => "\x1b[1;31m"
  | note => "\x1b[1;36m"
  | help => "\x1b[1;32m"

/-- The terminal's code for the end of a colour. -/
def colorEnd : String := "\x1b[0m"

/-- A label, in its colour or plain. -/
def Label.render (colored : Bool) (label : Label) : String :=
  if colored then label.color ++ label.word ++ colorEnd else label.word

namespace Diagnostic

/-- A line below the message. -/
def detail (colored : Bool) (label : Label) (text : String) : String :=
  "  = " ++ label.render colored ++ ": " ++ text ++ "\n"

/-- The text of a diagnostic: its message, then its notes, then its helps,
each on a line. -/
def render (colored : Bool) (diagnostic : Diagnostic) : String :=
  Label.error.render colored ++ ": " ++ diagnostic.message ++ "\n"
    ++ String.join (diagnostic.notes.map (detail colored .note))
    ++ String.join (diagnostic.helps.map (detail colored .help))

end Diagnostic

/-! ## Taking colours out -/

/-- Whether a character can stand between the bracket and the letter of a colour
code. -/
def isColorParameter (c : Char) : Bool := c.isDigit || c = ';'

/-- What stands behind the colour code that a text starts with, if it starts with
one: an escape character, a bracket, digits and semicolons, and an `m`. -/
def behindColor? : List Char → Option (List Char)
  | '\x1b' :: '[' :: cs =>
    match cs.dropWhile isColorParameter with
    | 'm' :: rest => some rest
    | _ => none
  | _ => none

theorem length_lt_of_behindColor? {text rest : List Char} (h : behindColor? text = some rest) :
    rest.length < text.length := by
  unfold behindColor? at h
  split at h
  · next cs =>
    have hdropped := (List.dropWhile_sublist isColorParameter (l := cs)).length_le
    split at h
    · next hrest =>
      rw [← Option.some.inj h]
      rw [hrest, List.length_cons] at hdropped
      simp only [List.length_cons]
      omega
    · cases h
  · cases h

/-- The characters that are not part of a colour code. -/
def stripColorCodes : List Char → List Char
  | [] => []
  | c :: cs =>
    match h : behindColor? (c :: cs) with
    | some rest =>
      have := length_lt_of_behindColor? h
      stripColorCodes rest
    | none => c :: stripColorCodes cs
termination_by text => text.length
decreasing_by
  · exact this
  · exact Nat.lt_succ_self _

/-- A text without the colour codes in it. -/
def stripColors (text : String) : String := .ofList (stripColorCodes text.toList)

end BuildVariants
