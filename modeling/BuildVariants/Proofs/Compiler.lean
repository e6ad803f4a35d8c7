import BuildVariants.Proofs.Schema
import BuildVariants.Proofs.Spec.Exchange
import Mathlib.Data.List.TakeWhile

/-!
# Compiler identities that are written and read back

Reading an identity takes off the white space around it and then the `%` signs
in front, and cuts what is left at the first `@` (`Compiler.parse_eq_ok_iff`).
Writing puts the two parts together again. So what is written is what was cut,
and it is read as the same identity if taking off once more takes off nothing.

That can fail in one way. White space behind the last `%` sign is not taken off
and becomes part of the name, and then it is taken off when the text is read for
the second time. `identities_survive_iff` says that an identity survives exactly
if no white space stands before its name (`Compiler.Flush`), on its own and in a
spec.
-/

namespace BuildVariants

namespace Compiler

/-! ## What is read -/

/-- **The part of a text that counts**, without the white space around it and
the `%` signs that it starts with then. -/
def stem (text : String) : List Char := (Text.trimChars text.toList).dropWhile (· = '%')

/-- **An identity that is read from a text**: it has a name without an `@`, which
goes by its own family if it has one, and its version is not empty. -/
structure Readable (compiler : Compiler) : Prop where
  named : compiler.family.name.toList ≠ []
  uncut : '@' ∉ compiler.family.name.toList
  known : CompilerFamily.ofName compiler.family.name = compiler.family
  versioned : compiler.version ≠ some ""

theorem parse_eq (text : String) :
    parse text = match Text.cutAt? '@' (stem text) with
      | some (name, version) =>
        if name = [] then .error (.missingName (.ofList (stem text)))
        else if version = [] then .error (.emptyVersion (.ofList (stem text)))
        else .ok ⟨.ofName (.ofList name), some (.ofList version)⟩
      | none =>
        if stem text = [] then .error (.missingName (.ofList (stem text)))
        else .ok ⟨.ofName (.ofList (stem text)), none⟩ := by
  unfold parse stem
  dsimp only
  cases Text.cutAt? '@' _ <;> simp

/-- The text of an identity, character by character. -/
theorem toList_render (compiler : Compiler) :
    compiler.render.toList
      = match compiler.version with
        | some version => compiler.family.name.toList ++ '@' :: version.toList
        | none => compiler.family.name.toList := by
  unfold render
  cases compiler.version <;> simp

/-- **A text is read as an identity** if the part that counts is the text of the
identity. -/
theorem parse_eq_ok_iff {text : String} {compiler : Compiler} :
    parse text = .ok compiler ↔ compiler.Readable ∧ stem text = compiler.render.toList := by
  rw [parse_eq]
  constructor
  · intro h
    split at h
    · next name version hcut =>
      split at h
      · cases h
      · next hname =>
        split at h
        · cases h
        · next hversion =>
          obtain rfl := Except.ok.inj h
          refine ⟨⟨?named, ?uncut, ?known, ?versioned⟩, ?_⟩
          case named => simpa using hname
          case uncut => simpa using Text.not_mem_of_cutAt? hcut
          case known => simp
          case versioned => simpa [← String.toList_inj] using hversion
          simp [toList_render, Text.join_cutAt? hcut]
    · next hcut =>
      split at h
      · cases h
      · next hname =>
        obtain rfl := Except.ok.inj h
        refine ⟨⟨?named, ?uncut, ?known, ?versioned⟩, ?_⟩
        case named => simpa using hname
        case uncut => simpa using Text.cutAt?_eq_none_iff.1 hcut
        case known => simp
        case versioned => simp
        simp [toList_render]
  · rintro ⟨⟨hnamed, huncut, hknown, hversioned⟩, hstem⟩
    obtain ⟨family, version⟩ := compiler
    rw [toList_render] at hstem
    cases version with
    | none =>
      have hwhole : stem text = family.name.toList := hstem
      rw [hwhole, Text.cutAt?_eq_none_iff.2 huncut]
      simp only [if_neg hnamed, String.ofList_toList, hknown]
    | some version =>
      have hparts : stem text = family.name.toList ++ '@' :: version.toList := hstem
      have hversion : version.toList ≠ [] := fun hnil =>
        hversioned (congrArg some (String.toList_eq_nil_iff.1 hnil))
      rw [hparts, Text.cutAt?_append huncut]
      simp only [if_neg hnamed, if_neg hversion, String.ofList_toList, hknown]

/-! ## Reading twice -/

/-- What counts of a text does not start with a `%` sign, and does not end with
white space. -/
theorem stem_ends (text : String) :
    (stem text).dropWhile (· = '%') = stem text
      ∧ ∀ c, (stem text).getLast? = some c → Text.isBlank c = false := by
  refine ⟨List.dropWhile_idempotent _ _, fun c hlast => ?_⟩
  obtain ⟨marks, hmarks⟩ : stem text <:+ Text.trimChars text.toList := List.dropWhile_suffix _
  have htrimmed : (Text.trimChars text.toList).getLast? = some c := by
    rw [← hmarks, List.getLast?_append, hlast, Option.some_or]
  exact Text.not_isBlank_of_ends_trimChars (.inr htrimmed)

/-- **What counts of a text counts whole** in a text of its own, if it does not
start with white space. -/
theorem stem_ofList_stem_iff (text : String) :
    stem (.ofList (stem text)) = stem text
      ↔ ∀ c ∈ (stem text).head?, Text.isBlank c = false := by
  obtain ⟨hmark, hlast⟩ := stem_ends text
  have hstem : stem (.ofList (stem text))
      = (Text.trimChars (stem text)).dropWhile (· = '%') := by
    rw [stem, String.toList_ofList]
  rw [hstem]
  constructor
  · intro h c hhead
    -- nothing can have been taken off, since both steps only ever take off
    have hrest : ((Text.trimChars (stem text)).dropWhile (· = '%')).Sublist
        (Text.trimChars (stem text)) := List.dropWhile_sublist _
    rw [h] at hrest
    have hkept := (Text.trimChars_sublist (stem text)).antisymm hrest
    rw [← hkept] at hhead
    exact Text.not_isBlank_of_ends_trimChars (.inl hhead)
  · intro h
    rw [Text.trimChars_eq_self h hlast, hmark]

/-- **No white space stands before the name** of a compiler. -/
def Flush (compiler : Compiler) : Prop :=
  ∀ c ∈ compiler.family.name.toList.head?, Text.isBlank c = false

theorem head?_render {compiler : Compiler} (h : compiler.Readable) :
    compiler.render.toList.head? = compiler.family.name.toList.head? := by
  obtain ⟨first, hfirst⟩ := Option.isSome_iff_exists.1 (List.isSome_head?.2 h.named)
  rw [toList_render]
  cases compiler.version with
  | none => rfl
  | some version =>
    show (compiler.family.name.toList ++ '@' :: version.toList).head? = _
    rw [List.head?_append, hfirst, Option.some_or]

/-- **An identity that was read is read back** from its text exactly if no white
space stands before its name. -/
theorem parse_render_iff {text : String} {compiler : Compiler}
    (h : parse text = .ok compiler) :
    parse compiler.render = .ok compiler ↔ compiler.Flush := by
  obtain ⟨hreadable, hstem⟩ := parse_eq_ok_iff.1 h
  have hrender : compiler.render = .ofList (stem text) := by
    rw [hstem, String.ofList_toList]
  rw [parse_eq_ok_iff, and_iff_right hreadable, Flush, ← head?_render hreadable, ← hstem, hrender]
  exact stem_ofList_stem_iff text

/-! ## Compilers of specs -/

theorem exists_text_of_toCompiler {found : Data} {compiler : Compiler}
    (h : found.toCompiler = .ok compiler) :
    ∃ text, found = .text text ∧ parse text = .ok compiler := by
  cases found with
  | text text =>
    refine ⟨text, rfl, ?_⟩
    unfold Data.toCompiler at h
    cases hparse : parse text with
    | error error =>
      simp only [Data.toText, bind, Except.bind, hparse] at h
      cases h
    | ok read =>
      simp only [Data.toText, bind, Except.bind, hparse] at h
      rw [Except.ok.inj h]
  | _ => cases h

/-- The compiler of a spec that is read comes from the last entry that is about
it. -/
theorem outcome_compiler {format : Data.Format} {data : Data} {spec : Spec}
    (h : Spec.ofData format data = .ok spec) :
    Data.Outcome (fun found compiler => found.toCompiler = .ok compiler) gcc
      (data.entry? Spec.fields "compiler") spec.compiler := by
  refine Data.outcome_of_toRecord (·.compiler) (fun {before found after} hset => ?_)
    (fun hother hset => (Spec.fields_of_setField hset).2.1 hother) h
  have hread : found.toCompiler.map (fun compiler => { before with compiler }) = .ok after := hset
  obtain ⟨_, hcompiler, rfl⟩ := Data.map_eq_ok_iff.1 hread
  exact hcompiler

/-- The compiler of a spec that is read is one that some text names. -/
theorem exists_parse_of_ofData {format : Data.Format} {data : Data} {spec : Spec}
    (h : Spec.ofData format data = .ok spec) : ∃ text, parse text = .ok spec.compiler := by
  have houtcome := outcome_compiler h
  cases hentry : data.entry? Spec.fields "compiler" with
  | none =>
    rw [hentry] at houtcome
    exact ⟨"gcc", houtcome.symm ▸ by decide⟩
  | some found =>
    rw [hentry] at houtcome
    obtain ⟨text, _, hparse⟩ := exists_text_of_toCompiler houtcome
    exact ⟨text, hparse⟩

/-- **A spec is read back with its compiler** if the text of the compiler is. -/
theorem compiler_of_toData_iff {format : Data.Format} {spec : Spec} :
    (Spec.ofData format spec.toData).map (·.compiler) = .ok spec.compiler
      ↔ parse spec.compiler.render = .ok spec.compiler := by
  constructor
  · intro h
    obtain ⟨other, hread, hsame⟩ := Data.map_eq_ok_iff.1 h
    have hentry : spec.toData.entry? Spec.fields "compiler"
        = some (.text spec.compiler.render) := by
      unfold Spec.toData
      cases spec.target <;> rfl
    have houtcome := outcome_compiler hread
    rw [hentry, hsame] at houtcome
    obtain ⟨text, htext, hparse⟩ := exists_text_of_toCompiler houtcome
    obtain rfl := Data.text.inj htext
    exact hparse
  · intro h
    rw [Spec.readsAs_toData h _ (.same _)]
    rfl

/-- **An identity survives being written and read again** exactly if no white
space stands before its name: on its own, if some text was read as it, and as the
compiler of a spec that was read, in either format and from the same or the
other. -/
theorem identities_survive_iff (compiler : Compiler) :
    (∀ text, parse text = .ok compiler →
        (parse compiler.render = .ok compiler ↔ compiler.Flush))
      ∧ ∀ format again data spec, Spec.ofData format data = .ok spec → spec.compiler = compiler →
        ((Spec.ofData again spec.toData).map (·.compiler) = .ok compiler ↔ compiler.Flush) := by
  refine ⟨fun text h => parse_render_iff h, fun format again data spec h hcompiler => ?_⟩
  obtain ⟨text, hparse⟩ := exists_parse_of_ofData h
  rw [← hcompiler, compiler_of_toData_iff, parse_render_iff hparse]

/-- Marks, white space around and inside, and a second `@` do no harm, on their own
and in a spec in TOML that is written as JSON. -/
theorem survive_spaced :
    let compiler : Compiler := ⟨.other "nvhpc %", some " 24.3@beta"⟩
    let data : Data := .map [("compiler", .text "\t%%nvhpc %@ 24.3@beta ")]
    parse "\t%%nvhpc %@ 24.3@beta " = .ok compiler
      ∧ parse compiler.render = .ok compiler
      ∧ ∃ spec, Spec.ofData .toml data = .ok spec
        ∧ (Spec.ofData .json spec.toData).map (·.compiler) = .ok compiler := by
  intro compiler data
  have hparse : parse "\t%%nvhpc %@ 24.3@beta " = .ok compiler := by decide +kernel
  have hfirst : compiler.family.name.toList.head? = some 'n' := by decide
  have hflush : compiler.Flush := by
    intro c hc
    rw [hfirst] at hc
    obtain rfl := Option.some.inj hc
    decide
  obtain ⟨spec, hread⟩ : ∃ spec, Spec.ofData .toml data = .ok spec :=
    exists_ok_of_isOk (by decide +kernel)
  have hcompiler : (Spec.ofData .toml data).toOption.map (·.compiler) = some compiler := by
    decide +kernel
  rw [hread] at hcompiler
  have hsame : spec.compiler = compiler := Option.some.inj hcompiler
  obtain ⟨halone, hinSpec⟩ := identities_survive_iff compiler
  exact ⟨hparse, (halone _ hparse).2 hflush, spec, hread,
    (hinSpec .toml .json data spec hread hsame).2 hflush⟩

/-- **White space behind the marks becomes part of the name and is lost**: the
name is another one then, or there is none. -/
theorem lost_behind_mark :
    parse "% gcc" = .ok ⟨.other " gcc", none⟩
      ∧ parse (render ⟨.other " gcc", none⟩) = .ok gcc
      ∧ gcc ≠ ⟨.other " gcc", none⟩
      ∧ parse "% @9" = .ok ⟨.other " ", some "9"⟩
      ∧ parse (render ⟨.other " ", some "9"⟩) = .error (.missingName "@9") := by
  decide +kernel

end Compiler

end BuildVariants
