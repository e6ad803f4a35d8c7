import BuildVariants.Proofs.Domain.Spelling
import BuildVariants.Proofs.Schema.Domains
import BuildVariants.Proofs.Text.Pieces
import BuildVariants.Condition

/-!
# Several names at once

A variant that takes several names is given them in one text. What the text says
is which names stand in it between commas, white space aside (`Lists`), and that is
all that counts: the text is accepted if all of them are declared, and then it
stands for the set of them (`validate_several`). In which order they come, how often
and with how much white space makes no difference, since the set is kept as the one
list of its names that increases.

Names are compared whole. One that begins like another is still another one, and two
commas in a row have the empty name between them, which must be declared like any
other.
-/

namespace BuildVariants

/-- **A text lists a name**: the name stands between two commas, or a comma and an
end of the text, with white space around it at most. -/
def Lists (text name : String) : Prop :=
  ∃ piece, Text.Between ',' text.toList piece ∧ Text.Trims piece name.toList

theorem mem_trimmedPieces_iff {text name : String} :
    name ∈ trimmedPieces text ↔ Lists text name := by
  unfold trimmedPieces Lists
  rw [List.mem_map]
  refine exists_congr fun piece => and_congr Text.mem_pieces_iff ?_
  rw [← Text.trimChars_eq_iff, ← String.toList_inj, String.toList_ofList]

namespace Variant

variable {variant : Variant} {names : List String}

/-! ## Checking a text -/

/-- A text is accepted by a variant that takes several names if they are all
declared, and then it stands for them. -/
theorem validate_several_eq_ok_iff (hdomain : variant.domain = .choice names)
    (hmultiple : variant.multiple = true) {files : Files} {text : String} {value : Value} :
    variant.validate files (.text text) = .ok value
      ↔ (∀ name, Lists text name → name ∈ names)
        ∧ value = .texts (distinct (trimmedPieces text)) := by
  have hunchecked (validator : Validator) : variant.domain ≠ .checked validator := by
    rw [hdomain]
    nofun
  rw [validate_eq_shape hunchecked, shape_eq_ok_iff, hdomain, hmultiple]
  simp only [← mem_trimmedPieces_iff]
  exact Domain.select?_multiple_eq_some_iff

/-- What a text stands for are the names that it lists. -/
theorem mem_distinct_trimmedPieces_iff {text name : String} :
    name ∈ distinct (trimmedPieces text) ↔ Lists text name :=
  mem_distinct.trans mem_trimmedPieces_iff

/-- Two texts stand for one value if they list the same names. -/
theorem distinct_trimmedPieces_eq_iff {first second : String} :
    distinct (trimmedPieces first) = distinct (trimmedPieces second)
      ↔ ∀ name, Lists first name ↔ Lists second name := by
  simp only [← mem_distinct_trimmedPieces_iff]
  refine ⟨fun h name => by rw [h], fun h => ?_⟩
  exact eq_of_increasing (distinct_sorted _) (distinct_sorted _) h

/-! ## Using the value -/

/-- **What is bound holds the names that its text lists**, and no others. -/
theorem holds_several_iff {schema : Schema} {assignments : NameMap SuppliedValue}
    {values : Values} (hdeclares : schema.Declares variant.name variant)
    (hdomain : variant.domain = .choice names) (hmultiple : variant.multiple = true)
    {text : String} (hassigned : assignments.get? variant.name = some (.text text))
    (hbind : schema.bind assignments = .ok values) (name : String) :
    values.holds variant.name name = true ↔ Lists text name := by
  obtain ⟨declared, value, hdeclared, haccept, hget⟩ :=
    (Schema.completes_of_bind hbind).assigned variant.name _ hassigned
  obtain rfl := hdeclared.unique hdeclares
  rw [hdomain, hmultiple] at haccept
  obtain ⟨_, rfl⟩ := Domain.select?_multiple_eq_some_iff.1 haccept
  rw [Values.holds, hget, List.contains_iff_mem, mem_distinct_trimmedPieces_iff]

/-- **A text of several names stands for the set of the names it lists.** It is
accepted exactly if all of them are declared. Then it stands for the list of these
names in increasing order of their bytes, each once, so that two texts that are
accepted stand for one value exactly if they list the same names; and where the text
is assigned, the variant holds exactly these names, and a condition that asks for one
finds it. -/
theorem validate_several (hdomain : variant.domain = .choice names)
    (hmultiple : variant.multiple = true) (files : Files) (text : String) :
    ((∃ value, variant.validate files (.text text) = .ok value)
        ↔ ∀ name, Lists text name → name ∈ names)
      ∧ (∀ value, variant.validate files (.text text) = .ok value →
          (∃ items, value = .texts items
            ∧ items.Pairwise (fun item next => Text.bytes item < Text.bytes next)
            ∧ ∀ name, name ∈ items ↔ Lists text name)
          ∧ ∀ other value', variant.validate files (.text other) = .ok value' →
              (value = value' ↔ ∀ name, Lists text name ↔ Lists other name))
      ∧ ∀ (schema : Schema) (spec : Spec) (values : Values),
          schema.Declares variant.name variant →
          spec.variants.get? variant.name = some (.text text) →
          schema.bind spec.variants = .ok values →
          ∀ name, (values.holds variant.name name = true ↔ Lists text name)
            ∧ ((Condition.equals variant.name name).holds ⟨spec, values⟩ = true
              ↔ Lists text name) := by
  have hiff (text : String) (value : Value) : variant.validate files (.text text) = .ok value
      ↔ (∀ name, Lists text name → name ∈ names)
        ∧ value = .texts (distinct (trimmedPieces text)) :=
    validate_several_eq_ok_iff hdomain hmultiple
  refine ⟨⟨?_, fun hnames => ?_⟩, fun value hvalue => ⟨?_, fun other value' hvalue' => ?_⟩,
    fun schema spec values hdeclares hassigned hbind name => ?_⟩
  · rintro ⟨value, hvalue⟩
    exact ((hiff text value).1 hvalue).1
  · exact ⟨_, (hiff text _).2 ⟨hnames, rfl⟩⟩
  · obtain ⟨_, rfl⟩ := (hiff text value).1 hvalue
    exact ⟨_, rfl, (distinct_sorted _).imp fun hlt => Text.bytes_lt_iff.2 hlt,
      fun name => mem_distinct_trimmedPieces_iff⟩
  · obtain ⟨_, rfl⟩ := (hiff text value).1 hvalue
    obtain ⟨_, rfl⟩ := (hiff other value').1 hvalue'
    rw [Value.texts.injEq, distinct_trimmedPieces_eq_iff]
  · have hholds := holds_several_iff hdeclares hdomain hmultiple hassigned hbind name
    exact ⟨hholds, hholds⟩

/-- A variant that takes several conduits, two of which begin alike, and for which the
empty name is declared. -/
def conduits : Variant := (choice "conduit" ["udp", "udp2", "", "ibv"] "udp" "Conduits.").multi

/-- A text that lists a conduit twice, with an ideographic space before it and white
space around others. -/
def spacedConduits : String := "\u3000udp2,, udp\t,udp2"

/-- The text is accepted, and it lists the same names as a plainer one: what is bound
holds these and not the others. A text with a name that only begins like a declared one
is not accepted. -/
theorem several_spacedConduits :
    let files : Files := .ofList []
    let spec : Spec := Spec.default.assign "conduit" (.text spacedConduits)
    conduits.validate files (.text spacedConduits) = .ok (.texts ["", "udp", "udp2"])
      ∧ (∀ name, Lists spacedConduits name ↔ Lists "udp,udp2," name)
      ∧ Lists spacedConduits "udp2" ∧ ¬ Lists spacedConduits "ibv"
      ∧ (∃ values, (Schema.mk [conduits]).bind spec.variants = .ok values
        ∧ (Condition.equals "conduit" "").holds ⟨spec, values⟩ = true)
      ∧ ∃ name, Lists "udp, udp 2" name ∧ name ∉ ["udp", "udp2", "", "ibv"] := by
  intro files spec
  have hspaced : conduits.validate files (.text spacedConduits)
      = .ok (.texts ["", "udp", "udp2"]) := by decide +kernel
  have hplain : conduits.validate files (.text "udp,udp2,")
      = .ok (.texts ["", "udp", "udp2"]) := by decide +kernel
  obtain ⟨values, hbind⟩ : ∃ values, (Schema.mk [conduits]).bind spec.variants = .ok values :=
    exists_ok_of_isOk (by decide +kernel)
  have hbound : ((Schema.mk [conduits]).bind spec.variants).toOption.map (fun values =>
      ["", "udp2", "ibv"].map (values.holds "conduit")) = some [true, true, false] := by
    decide +kernel
  rw [hbind] at hbound
  simp only [Except.toOption, Option.map_some, List.map_cons, List.map_nil, Option.some.injEq,
    List.cons.injEq, and_true] at hbound
  obtain ⟨hempty, hudp2, hibv⟩ := hbound
  have hdomain : conduits.domain = .choice ["udp", "udp2", "", "ibv"] := rfl
  obtain ⟨_, hvalue, hholds⟩ := validate_several hdomain rfl files spacedConduits
  have hdeclares : (Schema.mk [conduits]).Declares "conduit" conduits :=
    Schema.find?_eq_some_iff.1 rfl
  have hlists (name : String) : values.holds "conduit" name = true ↔ Lists spacedConduits name :=
    (hholds _ spec values hdeclares (by decide +kernel) hbind name).1
  obtain ⟨hnames, _⟩ := validate_several hdomain rfl files "udp, udp 2"
  have hrefused : ¬ ∃ value, conduits.validate files (.text "udp, udp 2") = .ok value := by
    have herror : (conduits.validate files (.text "udp, udp 2")).isOk = false := by
      decide +kernel
    rintro ⟨value, hvalue⟩
    rw [hvalue] at herror
    cases herror
  refine ⟨hspaced, ((hvalue _ hspaced).2 _ _ hplain).1 rfl, (hlists "udp2").1 hudp2,
    fun hlisted => ?_, ⟨values, hbind, hempty⟩, ?_⟩
  · rw [(hlists "ibv").2 hlisted] at hibv
    cases hibv
  · rw [hnames] at hrefused
    push Not at hrefused
    exact hrefused

end Variant

end BuildVariants
