import BuildVariants.Proofs.Schema
import BuildVariants.Proofs.Text.ByteOrder

/-!
# Bound values stay in their domains

Whatever is assigned, a value that gets bound is one that its variant is declared
to have (`Schema.bind_inDomain`). What that means is said here in full for each
kind of variant (`Variant.InDomain`), and not through the functions that check
supplied values. Those who use a value can go by it: a rule that asks for a text
finds a text, and a flag is made from one of the declared names.

The defaults are not checked when they are filled in, so they have to be in their
domains from the start.
-/

namespace BuildVariants

namespace Variant

/-- **A value is in the domain of a variant.** A variant that is on or off has a
truth value; a choice among names has one of them, or, where several can be
chosen, at least one, each declared, and in increasing order of their bytes
without repeats; an integer keeps within the bounds that there are; a checked
text is a single text. -/
def InDomain (variant : Variant) (value : Value) : Prop :=
  match variant.domain with
  | .toggle => ∃ on, value = .bool on
  | .choice names =>
    if variant.multiple then
      ∃ items, value = .texts items ∧ items ≠ []
        ∧ items.Pairwise (fun item next => Text.bytes item < Text.bytes next)
        ∧ ∀ item ∈ items, item ∈ names
    else ∃ text ∈ names, value = .text text
  | .integer min max =>
    ∃ number, value = .int number ∧ (∀ least ∈ min, least ≤ number) ∧ ∀ most ∈ max, number ≤ most
  | .checked _ => ∃ text, value = .text text

/-- What is checked on supplied values is what is declared. -/
theorem inDomain_iff {variant : Variant} {value : Value} :
    variant.InDomain value ↔ variant.domain.Admits variant.multiple value := by
  obtain ⟨_, domain, _, multiple, _⟩ := variant
  cases domain with
  | toggle => cases value <;> simp [InDomain, Domain.Admits]
  | choice names =>
    cases multiple with
    | true => cases value <;> simp [InDomain, Domain.Admits, Text.bytes_lt_iff]
    | false => cases value <;> simp [InDomain, Domain.Admits]
  | integer min max =>
    cases value <;> simp [InDomain, Domain.Admits, Domain.within, Option.all_eq_true]
  | checked validator => cases value <;> simp [InDomain, Domain.Admits]

instance (variant : Variant) (value : Value) : Decidable (variant.InDomain value) :=
  decidable_of_iff _ inDomain_iff.symm

end Variant

namespace Schema

/-- **Every bound value is in the domain of the first declaration of its name**, if
the defaults are in theirs: whatever the assignments are, and whether the value
was assigned or filled in. -/
theorem bind_inDomain {schema : Schema} {assignments : NameMap SuppliedValue} {values : Values}
    (hdefaults : ∀ variant ∈ schema.variants, variant.InDomain variant.default)
    (hbind : schema.bind assignments = .ok values) {name : String} {value : Value}
    (hget : values.get? name = some value) :
    ∃ variant, schema.Declares name variant ∧ variant.InDomain value := by
  have hcompletes := completes_of_bind hbind
  rcases schema.declares_or_undeclared name with ⟨variant, hdeclares⟩ | hundeclared
  · refine ⟨variant, hdeclares, Variant.inDomain_iff.2 ?_⟩
    have hadmitted : schema.DefaultsAdmitted := fun other hother =>
      Variant.inDomain_iff.1 (hdefaults other hother)
    obtain ⟨bound, hbound, hadmits⟩ := hcompletes.admits hadmitted hdeclares
    obtain rfl := Option.some.inj (hget.symm.trans hbound)
    exact hadmits
  · rw [hcompletes.undeclared name hundeclared] at hget
    cases hget

/-- A schema with a variant of each kind, where a name that was declared as an
integer is declared once more as a choice. -/
def assortment : Schema :=
  ⟨[.toggle "debug" false "", .choice "level" ["low", "high"] "low" "",
    ⟨"arch", .choice ["70", "é", "z", "60"], .texts ["60"], true, ""⟩,
    ⟨"limit", .integer (some 1) (some 9), .int 3, false, ""⟩,
    .checked "root" .directoryOrUnset unset "", .choice "limit" ["none"] "none" ""]⟩

/-- Values of each kind in unusual spellings are bound to what is declared, and so
is the default that is left. -/
theorem bind_assortment :
    let assignments : NameMap SuppliedValue := .ofList
      [("debug", .text "oN"), ("level", .text "high"), ("arch", .text "é, z ,70,z"),
        ("limit", .text " +09 ")]
    (∀ variant ∈ assortment.variants, variant.InDomain variant.default)
      ∧ ∃ values, assortment.bind assignments = .ok values
        ∧ values.get? "arch" = some (.texts ["70", "z", "é"])
        ∧ ∀ name value, values.get? name = some value →
          ∃ variant, assortment.Declares name variant ∧ variant.InDomain value := by
  intro assignments
  have hdefaults : ∀ variant ∈ assortment.variants, variant.InDomain variant.default := by
    decide +kernel
  obtain ⟨values, hbind⟩ : ∃ values, assortment.bind assignments = .ok values :=
    exists_ok_of_isOk (by decide +kernel)
  have harch : (assortment.bind assignments).toOption.bind (·.get? "arch")
      = some (.texts ["70", "z", "é"]) := by decide +kernel
  rw [hbind] at harch
  exact ⟨hdefaults, values, hbind, harch, fun _ _ hget => bind_inDomain hdefaults hbind hget⟩

end Schema

end BuildVariants
