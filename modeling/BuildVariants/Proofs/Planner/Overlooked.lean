import BuildVariants.Proofs.Planner.Inputs

/-!
# Variants that a planner overlooks

Some variants of a package are there for its flags alone. No rule asks for them,
no other package is needed for them, and their values are not checked by a
validator. Of such a variant it can be said without a look at the flags what
happens when it is assigned anew: the spec is still accepted, everything that is
not made from the variant stays as it is, and only what is derived from the
values and the flags remain to be compared (`plan_of_overlooked`).

That a variant is overlooked is a property of the planner's tables and can be
decided for each of them (`Overlooks`). Kokkos is never meant: planning asks for it
outside of the tables.
-/

namespace BuildVariants

/-! ## Assigning anew -/

namespace Schema

/-- **Some names are assigned anew**: every other name is assigned as before, and
what these are assigned, if anything, fits. -/
structure Reassigns (schema : Schema) (names : List String)
    (before after : NameMap SuppliedValue) : Prop where
  kept : ∀ name ∉ names, after.get? name = before.get? name
  fits : ∀ name ∈ names, ∀ raw, after.get? name = some raw →
    ∃ value, schema.shape name raw = .ok value

variable {schema : Schema} {names : List String} {before after : NameMap SuppliedValue}

/-- **What is assigned anew can be completed if it could be before**, and the other
names are bound to what they were bound to. -/
theorem Reassigns.exists_completes (h : schema.Reassigns names before after) {values : Values}
    (hcompletes : schema.Completes before values) :
    ∃ values', schema.Completes after values'
      ∧ ∀ name ∉ names, values.get? name = values'.get? name := by
  obtain ⟨values', hcompletes'⟩ : ∃ values', schema.Completes after values' := by
    refine exists_completes_iff.2 fun name raw error hassigned => ?_
    by_cases hname : name ∈ names
    · exact exists_shape_eq_ok_iff.1 (h.fits name hname raw hassigned) error
    · rw [h.kept name hname] at hassigned
      exact hcompletes.not_misfit hassigned error
  refine ⟨values', hcompletes', fun name hname => ?_⟩
  rcases schema.declares_or_undeclared name with ⟨variant, hdeclares⟩ | hundeclared
  · cases hassigned : before.get? name with
    | none =>
      rw [hcompletes.defaulted name variant hassigned hdeclares,
        hcompletes'.defaulted name variant ((h.kept name hname).trans hassigned) hdeclares]
    | some raw =>
      obtain ⟨declared, value, hdeclared, haccept, hget⟩ := hcompletes.assigned name raw hassigned
      rw [hget, hcompletes'.get?_assigned ((h.kept name hname).trans hassigned) hdeclared haccept]
  · rw [hcompletes.undeclared name hundeclared, hcompletes'.undeclared name hundeclared]

/-- Assigning one name anew. -/
theorem reassigns_insert {name : String} {raw : SuppliedValue} {value : Value}
    (h : schema.shape name raw = .ok value) (assignments : NameMap SuppliedValue) :
    schema.Reassigns [name] assignments (assignments.insert name raw) where
  kept other hother := by
    rw [NameMap.get?_insert, if_neg (mt List.mem_singleton.2 hother)]
  fits other hother supplied hassigned := by
    obtain rfl := List.mem_singleton.1 hother
    rw [NameMap.get?_insert, if_pos rfl] at hassigned
    obtain rfl := Option.some.inj hassigned
    exact ⟨value, h⟩

end Schema

/-! ## Deriving -/

/-- **The compiler of Kokkos is found as before** if Kokkos is on as before. -/
theorem Derived.ofResolved_of_kokkos {spec spec' : Spec} {values values' : Values}
    {derived : Derived} (h : ofResolved ⟨spec, values⟩ = .ok derived)
    (hkokkos : values.enabled "kokkos" = values'.enabled "kokkos")
    (hknown : spec.dependencies = spec'.dependencies) :
    ofResolved ⟨spec', values'⟩ = .ok (ofValues values' derived.kokkosCxx) := by
  have hsame : kokkosCxxOf ⟨spec', values'⟩ = kokkosCxxOf ⟨spec, values⟩ := by
    unfold kokkosCxxOf ResolvedSpec.enabled
    dsimp only
    rw [hkokkos, hknown]
  unfold ofResolved at h ⊢
  rw [hsame]
  cases hcxx : kokkosCxxOf ⟨spec, values⟩ with
  | error error =>
    rw [hcxx] at h
    cases h
  | ok cxx =>
    rw [hcxx] at h
    obtain rfl := Except.ok.inj h
    rfl

/-! ## Overlooking -/

namespace Planner

/-- **A planner overlooks a variant**: no rule and no row of dependencies looks at
it, and no validator checks it. -/
structure Overlooks (planner : Planner) (name : String) : Prop where
  rules : ∀ rule ∈ planner.rules, name ∉ rule.condition.reads
  rows : ∀ rows, planner.dependencies = some rows → ∀ row ∈ rows, name ∉ row.condition.reads
  unchecked : ∀ variant validator, planner.schema.Declares name variant →
    variant.domain ≠ .checked validator

variable {planner : Planner} {names : List String} {files : Files} {spec : Spec}
  {assignments : NameMap SuppliedValue} {values values' : Values}

/-- No value of an overlooked variant is rejected. -/
theorem Overlooks.not_rejects {name : String} (h : planner.Overlooks name) {value : Value}
    {error : ValidationError} : ¬ planner.schema.Rejects files name value error := by
  rintro ⟨hdeclares, hdomain, _⟩
  exact h.unchecked _ _ hdeclares hdomain

/-- A condition that looks at no overlooked variant holds as before. -/
theorem holds_of_not_mem_reads {condition : Condition}
    (hreads : ∀ name ∈ names, name ∉ condition.reads)
    (hsame : ∀ name ∉ names, values.get? name = values'.get? name) :
    condition.holds ⟨{ spec with variants := assignments }, values'⟩
      = condition.holds ⟨spec, values⟩ := by
  refine Condition.holds_of_agree ?_ condition fun name hmem => (hsame name ?_).symm
  · rfl
  · exact fun hname => hreads name hname hmem

/-- The gate is passed as before. -/
theorem Cleared.of_overlooked (hoverlooks : ∀ name ∈ names, planner.Overlooks name)
    (h : planner.Cleared files spec values)
    (hcompletes : planner.schema.Completes assignments values')
    (hsame : ∀ name ∉ names, values.get? name = values'.get? name) :
    planner.Cleared files { spec with variants := assignments } values' where
  listed := h.listed
  completes := hcompletes
  unbroken rule hrule := by
    rw [holds_of_not_mem_reads (fun name hname => (hoverlooks name hname).rules rule hrule) hsame]
    exact h.unbroken rule hrule
  accepted name value error hget := by
    by_cases hname : name ∈ names
    · exact (hoverlooks name hname).not_rejects
    · rw [← hsame name hname] at hget
      exact h.accepted name value error hget

/-- The same dependencies are needed as before. -/
theorem active_of_overlooked (hoverlooks : ∀ name ∈ names, planner.Overlooks name)
    (hsame : ∀ name ∉ names, values.get? name = values'.get? name) :
    planner.active ⟨{ spec with variants := assignments }, values'⟩
      = planner.active ⟨spec, values⟩ := by
  unfold active
  cases hrows : planner.dependencies with
  | none => rfl
  | some rows =>
    unfold DependencyRow.active
    dsimp only
    congr 1
    refine List.filter_congr fun row hrow => ?_
    exact holds_of_not_mem_reads
      (fun name hname => (hoverlooks name hname).rows rows hrows row hrow) hsame

/-- **Variants that a planner overlooks can be assigned anew.** The spec is still
accepted, the other variants keep their values, the compiler of Kokkos is the same
and so are the dependencies. -/
theorem plan_of_overlooked (hoverlooks : ∀ name ∈ names, planner.Overlooks name)
    (hkokkos : "kokkos" ∉ names) {derived : Derived} (h : planner.Cleared files spec values)
    (hderived : Derived.ofResolved ⟨spec, values⟩ = .ok derived)
    (hreassigns : planner.schema.Reassigns names spec.variants assignments) :
    ∃ values', planner.schema.Completes assignments values'
      ∧ (∀ name ∉ names, values.get? name = values'.get? name)
      ∧ planner.plan files { spec with variants := assignments }
        = .ok (.of ⟨{ spec with variants := assignments }, values'⟩
            (.ofValues values' derived.kokkosCxx) (planner.active ⟨spec, values⟩)) := by
  obtain ⟨values', hcompletes, hsame⟩ := hreassigns.exists_completes h.completes
  refine ⟨values', hcompletes, hsame, plan_eq_ok_iff.2 ⟨values', _,
    h.of_overlooked hoverlooks hcompletes hsame,
    Derived.ofResolved_of_kokkos hderived (Values.enabled_congr (hsame _ hkokkos)) rfl, ?_⟩⟩
  rw [active_of_overlooked hoverlooks hsame]

end Planner

end BuildVariants
