import BuildVariants.Environment
import BuildVariants.Legion
import BuildVariants.Proofs.CacheEntry
import BuildVariants.Proofs.Schema

/-!
# Exported variables, read back by a shell

A plan's variables are written as commands, and a value may be any text: it
may hold quotes, blanks, line ends, or what a shell would expand or run. The
shell that reads such a command back (`Text.Shell.words?`) changes its state at
every quote, and the statement that carries the induction is about the word
under way: a quoted value goes into it character by character, and afterwards
the reader stands outside of quotes again, whatever follows
(`Text.Shell.wordsFrom_quoteChars`).

So every command that sets a variable is two words, `export` and the
assignment (`BuildPlan.exports_read_back`). Nothing of the value is left over
to be expanded, split or run, and no two values share a command.
-/

namespace BuildVariants

namespace Text.Shell

/-! ## Characters -/

/-- **Harmless characters mean nothing to the shell.** -/
theorem isSpecial_eq_false_of_isHarmless {c : Char} (h : isHarmless c = true) :
    isSpecial c = false := by
  have hdisjoint :
      ("|&;<>()$`\\\"' \t\n*?[]#~!%^\x7b\x7d".toList.all fun c => !isHarmless c) = true := by
    decide
  refine Bool.eq_false_iff.2 fun hspecial => ?_
  have hharmful := List.all_eq_true.1 hdisjoint c (List.contains_iff_mem.1 hspecial)
  rw [h] at hharmful
  cases hharmful

/-- Blanks are special. -/
theorem not_isSeparator_of_isSpecial_eq_false {c : Char} (h : isSpecial c = false) :
    ¬ isSeparator c = true := by
  intro hsep
  rcases of_decide_eq_true hsep with rfl | rfl <;> exact absurd h (by decide)

/-- Blanks, quotes and backslashes are special too, so a character that is not
special goes into the word under way. -/
theorem wordsFrom_word_cons {c : Char} (h : isSpecial c = false) (w cs : List Char) :
    wordsFrom (.word w) (c :: cs) = wordsFrom (.word (c :: w)) cs := by
  have hquote : c ≠ '\'' := by
    rintro rfl
    exact absurd h (by decide)
  have hbackslash : c ≠ '\\' := by
    rintro rfl
    exact absurd h (by decide)
  rw [wordsFrom, if_neg (not_isSeparator_of_isSpecial_eq_false h), if_neg hquote,
    if_neg hbackslash, if_neg (Bool.eq_false_iff.1 h)]

/-- Characters that are not special go into the word under way. -/
theorem wordsFrom_word_append {cs : List Char} (h : ∀ c ∈ cs, isSpecial c = false)
    (w rest : List Char) :
    wordsFrom (.word w) (cs ++ rest) = wordsFrom (.word (cs.reverse ++ w)) rest := by
  induction cs generalizing w with
  | nil => rfl
  | cons c cs ih =>
    obtain ⟨hc, hcs⟩ := List.forall_mem_cons.1 h
    rw [List.cons_append, wordsFrom_word_cons hc, ih hcs, List.reverse_cons,
      List.append_assoc, List.singleton_append]

/-- A word starts as it goes on: between words only blanks are read in another
way than inside one. -/
theorem wordsFrom_between_cons {c : Char} (h : isSpecial c = false) (cs : List Char) :
    wordsFrom .between (c :: cs) = wordsFrom (.word [c]) cs := by
  have hsep := not_isSeparator_of_isSpecial_eq_false h
  rw [← wordsFrom_word_cons h [] cs, wordsFrom, wordsFrom, if_neg hsep, if_neg hsep]

/-! ## Quoted values -/

/-- Between single quotes every character stands for itself, and the quotes
that are written inside are read as quotes. -/
theorem wordsFrom_escapeQuotes (w cs rest : List Char) :
    wordsFrom (.quotes w) (escapeQuotes cs ++ '\'' :: rest)
      = wordsFrom (.word (cs.reverse ++ w)) rest := by
  induction cs generalizing w with
  | nil => rw [escapeQuotes, List.nil_append, wordsFrom, if_pos rfl, List.reverse_nil,
      List.nil_append]
  | cons c cs ih =>
    have hnext : wordsFrom (.quotes (c :: w)) (escapeQuotes cs ++ '\'' :: rest)
        = wordsFrom (.word ((c :: cs).reverse ++ w)) rest := by
      rw [ih, List.reverse_cons, List.append_assoc, List.singleton_append]
    rw [escapeQuotes, ← hnext]
    split
    · next hquote =>
      -- the quotes are closed, the quote is escaped, and they are opened again
      subst hquote
      rfl
    · next hother => rw [List.cons_append, wordsFrom, if_neg hother]

/-- **A quoted value goes into the word under way**, and the reader is outside
of quotes again behind it. -/
theorem wordsFrom_quoteChars (w cs rest : List Char) :
    wordsFrom (.word w) (quoteChars cs ++ rest) = wordsFrom (.word (cs.reverse ++ w)) rest := by
  unfold quoteChars
  split
  · next hall =>
    exact wordsFrom_word_append
      (fun c hc => isSpecial_eq_false_of_isHarmless (List.all_eq_true.1 hall c hc)) w rest
  · have hopen : wordsFrom (.word w) ('\'' :: escapeQuotes cs ++ ['\''] ++ rest)
        = wordsFrom (.quotes w) (escapeQuotes cs ++ '\'' :: rest) := by
      rw [List.append_assoc, List.cons_append, List.singleton_append]
      rfl
    rw [hopen, wordsFrom_escapeQuotes]

/-! ## Names of variables -/

/-- Whether a character can stand in the name of a variable. -/
def isNameChar (c : Char) : Bool := c.isAlphanum || c = '_'

/-- **Whether a text is the name of a variable**: letters, digits and
underscores, not starting with a digit. -/
def isIdentifier (name : String) : Bool :=
  match name.toList with
  | [] => false
  | first :: rest => isNameChar first && !first.isDigit && rest.all isNameChar

theorem isSpecial_eq_false_of_isNameChar {c : Char} (h : isNameChar c = true) :
    isSpecial c = false := by
  refine isSpecial_eq_false_of_isHarmless ?_
  unfold isNameChar at h
  unfold isHarmless
  rcases Bool.or_eq_true_iff.1 h with halphanum | hunderscore
  · rw [halphanum, Bool.true_or]
  · obtain rfl := of_decide_eq_true hunderscore
    decide

/-- A name is not empty, and its characters are those of names. -/
theorem exists_of_isIdentifier {name : String} (h : isIdentifier name = true) :
    ∃ first rest, name.toList = first :: rest ∧ ∀ c ∈ first :: rest, isNameChar c = true := by
  unfold isIdentifier at h
  split at h
  · cases h
  · next first rest hname =>
    rw [Bool.and_eq_true, Bool.and_eq_true] at h
    exact ⟨first, rest, hname, List.forall_mem_cons.2 ⟨h.1.1, List.all_eq_true.1 h.2⟩⟩

theorem not_mem_of_isIdentifier {name : String} (h : isIdentifier name = true) :
    '=' ∉ name.toList := by
  obtain ⟨first, rest, hname, hchars⟩ := exists_of_isIdentifier h
  rw [hname]
  exact fun hmem => absurd (hchars _ hmem) (by decide)

end Text.Shell

/-! ## Commands -/

open Text.Shell in
/-- **A command that sets a variable is two words**, `export` and the
assignment. -/
theorem words?_exportCommand {name : String} (h : isIdentifier name = true) (value : String) :
    words? (exportCommand name value) = some ["export", name ++ "=" ++ value] := by
  obtain ⟨first, rest, hname, hchars⟩ := exists_of_isIdentifier h
  have hspecial : ∀ c ∈ first :: rest, isSpecial c = false :=
    fun c hc => isSpecial_eq_false_of_isNameChar (hchars c hc)
  have hcommand : (exportCommand name value).toList
      = "export ".toList ++ first :: (rest ++ '=' :: (quoteChars value.toList ++ [])) := by
    simp [exportCommand, quote, hname]
  have hword : wordsFrom .between (first :: (rest ++ '=' :: (quoteChars value.toList ++ [])))
      = some [first :: rest ++ '=' :: value.toList] := by
    rw [wordsFrom_between_cons (hspecial first List.mem_cons_self),
      wordsFrom_word_append fun c hc => hspecial c (List.mem_cons_of_mem _ hc),
      wordsFrom_word_cons (by decide), wordsFrom_quoteChars]
    simp [wordsFrom]
  have hexport : wordsFrom .between (exportCommand name value).toList
      = (wordsFrom .between (first :: (rest ++ '=' :: (quoteChars value.toList ++ [])))).map
          ("export".toList :: ·) := by
    rw [hcommand]
    rfl
  rw [words?, hexport, hword]
  simp [← hname, String.ofList_append, String.append_assoc]

/-- **A command sets one variable to one value.** -/
theorem exportCommand_inj {name name' value value' : String}
    (h : Text.Shell.isIdentifier name = true) (h' : Text.Shell.isIdentifier name' = true) :
    exportCommand name value = exportCommand name' value' ↔ name = name' ∧ value = value' := by
  constructor
  · intro hcommand
    have hwords := words?_exportCommand h value
    rw [hcommand, words?_exportCommand h'] at hwords
    have htext : name' ++ "=" ++ value' = name ++ "=" ++ value :=
      (List.cons.inj (List.cons.inj (Option.some.inj hwords)).2).1
    have hassignment : name'.toList ++ '=' :: value'.toList
        = name.toList ++ '=' :: value.toList := by
      simpa using congrArg String.toList htext
    -- the first equals sign ends the name
    have hcut := Text.cutAt?_append (Text.Shell.not_mem_of_isIdentifier h) value.toList
    rw [← hassignment, Text.cutAt?_append (Text.Shell.not_mem_of_isIdentifier h')] at hcut
    obtain ⟨hname, hvalue⟩ := Prod.mk.inj (Option.some.inj hcut)
    exact ⟨(String.toList_injective hname).symm, (String.toList_injective hvalue).symm⟩
  · rintro ⟨rfl, rfl⟩
    rfl

namespace BuildPlan

/-- **Exported variables are read back as they are.** The commands of a plan
are one for each variable, in the order of the names; a shell reads each of
them as the two words `export` and `NAME=value`, and a command stands for one
name and one value only. -/
theorem exports_read_back {plan : BuildPlan}
    (hnames : ∀ name ∈ plan.env.names, Text.Shell.isIdentifier name = true) :
    plan.exports.map Text.Shell.words?
        = plan.env.entries.map (fun entry => some ["export", entry.1 ++ "=" ++ entry.2])
      ∧ plan.env.names.Pairwise (fun first second => Text.bytes first < Text.bytes second)
      ∧ ∀ name ∈ plan.env.names, ∀ name' ∈ plan.env.names, ∀ value value',
          exportCommand name value = exportCommand name' value'
            ↔ name = name' ∧ value = value' := by
  refine ⟨?_, ?_, fun name hname name' hname' value value' =>
    exportCommand_inj (hnames name hname) (hnames name' hname')⟩
  · unfold exports
    rw [List.map_map]
    refine List.map_congr_left fun entry hentry => ?_
    exact words?_exportCommand (hnames entry.1 (List.mem_map_of_mem hentry)) entry.2
  · exact (NameMap.sorted_iff_names.1 plan.env.sorted).imp Text.bytes_lt_iff.2

end BuildPlan

namespace Legion

/-- A compiler at a place whose path is full of what a shell would act on. -/
def oddCompiler : String := "'/opt/it''s $HOME; rm -rf `pwd`\\\n*/c++ é'"

/-- Kokkos with that compiler. -/
def kokkosByOddCompiler : Spec :=
  { Spec.default with
    variants := .ofList [("kokkos", .bool true)]
    dependencies := .ofList [("kokkos", { KnownDependency.unknown with cxx := some oddCompiler })] }

/-- The compiler is exported in one command, which reads back as it is. -/
theorem exports_oddCompiler :
    ∃ plan, package.planner.plan (.ofList []) kokkosByOddCompiler = .ok plan
      ∧ (∀ name ∈ plan.env.names, Text.Shell.isIdentifier name = true)
      ∧ plan.exports.map Text.Shell.words?
        = [some ["export", "KOKKOS_CXX_COMPILER=" ++ oddCompiler]] := by
  obtain ⟨plan, hplan⟩ : ∃ plan, package.planner.plan (.ofList []) kokkosByOddCompiler = .ok plan :=
    exists_ok_of_isOk (by decide +kernel)
  have henv : (package.planner.plan (.ofList []) kokkosByOddCompiler).toOption.map (·.env.entries)
      = some [("KOKKOS_CXX_COMPILER", oddCompiler)] := by
    decide +kernel
  rw [hplan] at henv
  have hentries : plan.env.entries = [("KOKKOS_CXX_COMPILER", oddCompiler)] := Option.some.inj henv
  have hnames : ∀ name ∈ plan.env.names, Text.Shell.isIdentifier name = true := by
    rw [NameMap.names, hentries]
    decide
  refine ⟨plan, hplan, hnames, ?_⟩
  rw [(BuildPlan.exports_read_back hnames).1, hentries]
  rfl

end Legion

end BuildVariants
