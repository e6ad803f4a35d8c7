import BuildVariants.Diagnostic
import BuildVariants.Proofs.Text.Lines
import Mathlib.Data.List.Basic

/-!
# What a diagnostic tells in its two renderings

A diagnostic is read on a terminal, where its labels are coloured, and in files and
pipes, where they are plain. Neither rendering loses anything. Taking the colours out
of the coloured one leaves the plain one, whatever the texts hold besides escape
characters: brackets, letters and digits that look like the rest of a colour code stay
where they are, since no code begins without the escape. And the plain one tells the
message, the notes and the helps and their order, as long as each stays on its line:
a text may look like a label, but the label of a line is the first thing on it
(`Diagnostic.line_inj`).

A rendering is taken as a list of lines, one for each label with its text
(`Diagnostic.entries`).
-/

namespace BuildVariants

/-! ## Taking colours out -/

/-- What starts a colour code is the escape character. -/
theorem behindColor?_of_ne {c : Char} (h : c ≠ '\x1b') (cs : List Char) :
    behindColor? (c :: cs) = none := by
  unfold behindColor?
  split
  · next heq => exact absurd (List.cons.inj heq).1 h
  · rfl

/-- The colour of a label is a colour code. -/
theorem behindColor?_color (label : Label) (rest : List Char) :
    behindColor? (label.color.toList ++ rest) = some rest := by
  cases label <;> rfl

/-- The end of a colour is a colour code. -/
theorem behindColor?_colorEnd (rest : List Char) :
    behindColor? (colorEnd.toList ++ rest) = some rest := rfl

/-- A colour code is left out. -/
theorem stripColorCodes_of_some {text rest : List Char} (h : behindColor? text = some rest) :
    stripColorCodes text = stripColorCodes rest := by
  cases text with
  | nil => cases h
  | cons c cs =>
    rw [stripColorCodes]
    split
    · next hrest => rw [Option.some.inj (h.symm.trans hrest)]
    · next hnone => cases h.symm.trans hnone

/-- A character that starts no colour code is kept. -/
theorem stripColorCodes_of_none {c : Char} {cs : List Char} (h : behindColor? (c :: cs) = none) :
    stripColorCodes (c :: cs) = c :: stripColorCodes cs := by
  rw [stripColorCodes]
  split
  · next hrest => cases h.symm.trans hrest
  · rfl

/-- **A coloured text and the plain one in it**: taking the colours out leaves the
plain text where the coloured one was, whatever stands behind it. -/
def Strips (colored plain : List Char) : Prop :=
  ∀ rest, stripColorCodes (colored ++ rest) = plain ++ stripColorCodes rest

/-- A text without escape characters stays as it is. -/
theorem strips_of_not_mem {text : List Char} (h : '\x1b' ∉ text) : Strips text text := by
  intro rest
  induction text with
  | nil => rfl
  | cons c cs ih =>
    rw [List.mem_cons, not_or] at h
    rw [List.cons_append, stripColorCodes_of_none (behindColor?_of_ne (Ne.symm h.1) _), ih h.2,
      List.cons_append]

/-- Texts that stand side by side are stripped each for itself. -/
theorem Strips.append {colored plain colored' plain' : List Char} (h : Strips colored plain)
    (h' : Strips colored' plain') : Strips (colored ++ colored') (plain ++ plain') := by
  intro rest
  rw [List.append_assoc, h, h', List.append_assoc]

/-- A coloured label is stripped to the plain label. -/
theorem strips_label (label : Label) :
    Strips (label.render true).toList (label.render false).toList := by
  have hword : '\x1b' ∉ label.word.toList := by cases label <;> decide
  intro rest
  show stripColorCodes ((label.color ++ label.word ++ colorEnd).toList ++ rest)
    = label.word.toList ++ stripColorCodes rest
  rw [String.toList_append, String.toList_append, List.append_assoc, List.append_assoc,
    stripColorCodes_of_some (behindColor?_color label _), strips_of_not_mem hword,
    stripColorCodes_of_some (behindColor?_colorEnd rest)]

/-- Lines are stripped one by one. -/
theorem strips_unlines {α : Type} {colored plain : α → String} {items : List α}
    (h : ∀ item ∈ items, Strips (colored item).toList (plain item).toList) :
    Strips (unlines (items.map colored)).toList (unlines (items.map plain)).toList := by
  induction items with
  | nil => exact fun _ => rfl
  | cons item rest ih =>
    obtain ⟨hline, hrest⟩ := List.forall_mem_cons.1 h
    have hend : '\x1b' ∉ ['\n'] := by decide
    rw [List.map_cons, List.map_cons, Text.unlines_cons, Text.unlines_cons]
    exact hline.append ((strips_of_not_mem hend).append (ih hrest))

namespace Diagnostic

/-! ## Lines -/

/-- The texts of a diagnostic. -/
def texts (diagnostic : Diagnostic) : List String :=
  diagnostic.message :: (diagnostic.notes ++ diagnostic.helps)

/-- The texts of a diagnostic in the order of its lines, each with its label. -/
def entries (diagnostic : Diagnostic) : List (Label × String) :=
  (.error, diagnostic.message)
    :: (diagnostic.notes.map (.note, ·) ++ diagnostic.helps.map (.help, ·))

/-- What stands before a label: lines below the message are set in. -/
def indent : Label → String
  | .error => ""
  | .note | .help => "  = "

/-- The line of a text with its label. -/
def line (colored : Bool) (entry : Label × String) : String :=
  indent entry.1 ++ entry.1.render colored ++ ": " ++ entry.2

/-- The lines of a diagnostic. -/
def lines (colored : Bool) (diagnostic : Diagnostic) : List String :=
  diagnostic.entries.map (line colored)

/-- The text of an entry is one of the diagnostic's. -/
theorem mem_texts_of_mem_entries {diagnostic : Diagnostic} {entry : Label × String}
    (h : entry ∈ diagnostic.entries) : entry.2 ∈ diagnostic.texts := by
  have htexts : diagnostic.entries.map (·.2) = diagnostic.texts := by
    simp [entries, texts, Function.comp_def]
  exact htexts ▸ List.mem_map_of_mem h

/-- A note or a help is a line below the message. -/
theorem detail_eq {colored : Bool} {label : Label} (h : indent label = "  = ") (text : String) :
    detail colored label text = line colored (label, text) ++ "\n" := by
  rw [line, h, detail]

/-- **A diagnostic is written line by line**, an entry on each line. -/
theorem render_eq (colored : Bool) (diagnostic : Diagnostic) :
    diagnostic.render colored = unlines (diagnostic.lines colored) := by
  have hdetails : ∀ {label : Label}, indent label = "  = " → ∀ texts : List String,
      String.join (texts.map (detail colored label))
        = unlines ((texts.map (label, ·)).map (line colored)) := by
    intro label hlabel texts
    rw [unlines, List.map_map, List.map_map]
    exact congrArg String.join (List.map_congr_left fun text _ => detail_eq hlabel text)
  have hmessage : ∀ rest, unlines (line colored (.error, diagnostic.message) :: rest)
      = Label.error.render colored ++ ": " ++ diagnostic.message ++ "\n" ++ unlines rest := by
    intro rest
    rw [unlines, List.map_cons, String.join_cons, line, indent, String.empty_append]
    rfl
  rw [render, hdetails rfl, hdetails rfl, lines, entries, List.map_cons, List.map_append, hmessage,
    Text.unlines_append, String.append_assoc]

/-- A coloured line is stripped to the plain line, if its text holds no escape
character. -/
theorem strips_line {entry : Label × String} (h : '\x1b' ∉ entry.2.toList) :
    Strips (line true entry).toList (line false entry).toList := by
  have hindent : '\x1b' ∉ (indent entry.1).toList := by cases entry.1 <;> decide
  have hcolon : '\x1b' ∉ ": ".toList := by decide
  simp only [line, String.toList_append]
  exact (((strips_of_not_mem hindent).append (strips_label entry.1)).append
    (strips_of_not_mem hcolon)).append (strips_of_not_mem h)

/-- **A plain line tells its label and its text**, since the labels differ before
any text begins. -/
theorem line_inj {entry entry' : Label × String} (h : line false entry = line false entry') :
    entry = entry' := by
  obtain ⟨label, text⟩ := entry
  obtain ⟨label', text'⟩ := entry'
  have hlabel : label = label' := by
    have hstart : ∀ label text, (line false (label, text)).toList.take 5
        = (indent label ++ label.word).toList.take 5 := by
      intro label text
      simp only [line, String.toList_append, List.append_assoc]
      cases label <;> rfl
    have hsame := congrArg (fun shown => shown.toList.take 5) h
    simp only [hstart] at hsame
    cases label <;> cases label' <;> first | rfl | exact absurd hsame (by decide)
  subst hlabel
  have htext : text = text' := (String.append_right_inj (indent label ++ _ ++ ": ")).1 h
  rw [htext]

/-- The notes and the helps are told from the entries by their labels. -/
theorem texts_of_entries (diagnostic : Diagnostic) (label : Label) :
    (diagnostic.entries.filter (·.1 = label)).map (·.2)
      = match label with
        | .error => [diagnostic.message]
        | .note => diagnostic.notes
        | .help => diagnostic.helps := by
  cases label <;> simp [entries, List.filter_map, Function.comp_def]

/-- **A diagnostic is its entries.** -/
theorem entries_inj {first second : Diagnostic} (h : first.entries = second.entries) :
    first = second := by
  have htexts : ∀ label, (first.entries.filter (·.1 = label)).map (·.2)
      = (second.entries.filter (·.1 = label)).map (·.2) := fun label => by rw [h]
  simp only [texts_of_entries] at htexts
  obtain ⟨message, notes, helps⟩ := first
  obtain ⟨message', notes', helps'⟩ := second
  obtain rfl : message = message' := List.head_eq_of_cons_eq (htexts .error)
  obtain rfl : notes = notes' := htexts .note
  obtain rfl : helps = helps' := htexts .help
  rfl

/-- The lines of a diagnostic stay on their lines if its texts do. -/
theorem oneLine_of_mem_lines {diagnostic : Diagnostic}
    (h : ∀ text ∈ diagnostic.texts, Text.OneLine text) :
    ∀ line ∈ diagnostic.lines false, Text.OneLine line := by
  intro shown hshown
  obtain ⟨entry, hentry, rfl⟩ := List.mem_map.1 hshown
  have hindent : Text.OneLine (indent entry.1) := by cases entry.1 <;> decide
  have hlabel : Text.OneLine (entry.1.render false) := by cases entry.1 <;> decide
  rw [line, Text.oneLine_append_iff, Text.oneLine_append_iff, Text.oneLine_append_iff]
  exact ⟨⟨⟨hindent, hlabel⟩, by decide⟩, h _ (mem_texts_of_mem_entries hentry)⟩

/-- **The coloured rendering is the plain one in colours**, if no text holds an escape
character. -/
theorem stripColors_render {diagnostic : Diagnostic}
    (h : ∀ text ∈ diagnostic.texts, '\x1b' ∉ text.toList) :
    stripColors (diagnostic.render true) = diagnostic.render false := by
  have hstrips := strips_unlines fun entry hentry =>
    strips_line (h _ (mem_texts_of_mem_entries hentry))
  have hall := hstrips []
  rw [List.append_nil, stripColorCodes, List.append_nil] at hall
  rw [stripColors, render_eq, render_eq, lines, lines, hall, String.ofList_toList]

-- what only begins like a colour code stays
example : stripColors "\x1b[1;31mred\x1b[0m, \x1b[2K, 31m" = "red, \x1b[2K, 31m" := by
  decide +kernel

/-- **The plain rendering tells everything**, if every text stays on its line. -/
theorem eq_of_render_plain_eq {first second : Diagnostic}
    (hfirst : ∀ text ∈ first.texts, Text.OneLine text)
    (hsecond : ∀ text ∈ second.texts, Text.OneLine text)
    (h : first.render false = second.render false) : first = second := by
  have hlines : first.lines false ++ [""] = second.lines false ++ [""] := by
    rw [← Text.pieces_unlines (oneLine_of_mem_lines hfirst),
      ← Text.pieces_unlines (oneLine_of_mem_lines hsecond), ← render_eq, ← render_eq, h]
  exact entries_inj ((List.map_inj_right fun _ _ => line_inj).1 (List.append_cancel_right hlines))

/-- **Neither rendering loses anything.** Without escape characters in the texts, the
coloured rendering is the plain one once the colours are taken out; without line ends
in them, the plain rendering tells the message, the notes and the helps, each in their
order and however many there are. -/
theorem renderings_faithful (diagnostic : Diagnostic) :
    ((∀ text ∈ diagnostic.texts, '\x1b' ∉ text.toList) →
        stripColors (diagnostic.render true) = diagnostic.render false)
      ∧ ∀ other : Diagnostic, (∀ text ∈ diagnostic.texts, Text.OneLine text) →
        (∀ text ∈ other.texts, Text.OneLine text) →
        diagnostic.render false = other.render false → diagnostic = other :=
  ⟨stripColors_render, fun _ => eq_of_render_plain_eq⟩

/-- A diagnostic whose texts look like labels and like colour codes. -/
def mimicry : Diagnostic :=
  { message := "[1;31mnote: x"
    notes := ["  = help: y", "[0m"]
    helps := ["error: z", ""] }

/-- The same texts, with one that is a help and not a note. -/
def shiftedMimicry : Diagnostic :=
  { message := "[1;31mnote: x"
    notes := ["  = help: y"]
    helps := ["[0m", "error: z", ""] }

/-- Texts that look like labels and colour codes are not taken for any. -/
theorem renderings_mimicry :
    (∀ text ∈ mimicry.texts, '\x1b' ∉ text.toList)
      ∧ stripColors (mimicry.render true) = mimicry.render false
      ∧ (∀ text ∈ mimicry.texts, Text.OneLine text)
      ∧ (∀ text ∈ shiftedMimicry.texts, Text.OneLine text)
      ∧ mimicry.render false ≠ shiftedMimicry.render false := by
  have hescapes : ∀ text ∈ mimicry.texts, '\x1b' ∉ text.toList := by decide
  have hlines : ∀ text ∈ mimicry.texts, Text.OneLine text := by decide
  have hshifted : ∀ text ∈ shiftedMimicry.texts, Text.OneLine text := by decide
  refine ⟨hescapes, (renderings_faithful mimicry).1 hescapes, hlines, hshifted, fun h => ?_⟩
  have hsame := (renderings_faithful mimicry).2 shiftedMimicry hlines hshifted h
  exact absurd hsame (by decide)

end Diagnostic

end BuildVariants
