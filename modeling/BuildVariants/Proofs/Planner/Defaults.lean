import BuildVariants.Proofs.Planner.Inputs

/-!
# Defaults that are written out

A variant that is not assigned has the default of its first declaration. To
assign it that default should then be the same thing, and it is, if the default
can be written as a supplied value that the declaration takes for it
(`Schema.DefaultsWritable`): a truth value, an integer or a text as it is, and
a list with commas between its texts. The condition is one on the package and
not on the spec. Without it a default need not even lie in its own domain.

The assignments that are added take part in every step. None of them can be the
first that does not fit, and what they are bound to was bound before
(`Schema.SpellsOut.bind_eq`); from there on nothing looks at the assignments.
So it is not only the plan that stays the same, but also the error that is
reported for a spec that is wrong (`plan_writeOut`).
-/

namespace BuildVariants

/-- **A value as it can be supplied**: itself, or with commas between its
texts. -/
def Value.supplied : Value → SuppliedValue
  | .bool value => .bool value
  | .int value => .int value
  | .text value => .text value
  | .texts values => .text (",".intercalate values)

/-- The assignments that give variants their defaults. -/
def defaultAssignments (chosen : List Variant) : List (String × SuppliedValue) :=
  chosen.map fun variant => (variant.name, variant.default.supplied)

/-- **The spec with the defaults of some variants written out.** -/
def Spec.writeOut (chosen : List Variant) (spec : Spec) : Spec :=
  { spec with variants := spec.variants.insertMany (defaultAssignments chosen) }

namespace Schema

/-- **The defaults of a schema can be written out**: the default of every
declaration, as it can be supplied, has the right shape for the first
declaration of the name and stands for the default of that. -/
def DefaultsWritable (schema : Schema) : Prop :=
  ∀ variant ∈ schema.variants, ∀ first, schema.Declares variant.name first →
    first.shape variant.default.supplied = .ok first.default

/-- The first declarations of a schema are those that are found. -/
theorem defaultsWritable_iff {schema : Schema} :
    schema.DefaultsWritable
      ↔ ∀ variant ∈ schema.variants, ∀ first ∈ schema.find? variant.name,
          first.domain.accept? first.multiple variant.default.supplied = some first.default := by
  have hshape (first : Variant) (raw : SuppliedValue) :
      first.shape raw = .ok first.default
        ↔ first.domain.accept? first.multiple raw = some first.default := by
    unfold Variant.shape
    cases first.domain.accept? first.multiple raw <;> simp
  simp only [DefaultsWritable, ← find?_eq_some_iff, hshape, Option.mem_def]

/-- **Assignments that spell out what others leave to the defaults**: what is
assigned there is assigned here too, and whatever is assigned here besides
stands for the default of its name. -/
structure SpellsOut (schema : Schema) (assignments longer : NameMap SuppliedValue) : Prop where
  kept : ∀ name raw, assignments.get? name = some raw → longer.get? name = some raw
  added : ∀ name raw, assignments.get? name = none → longer.get? name = some raw →
    ∃ variant, schema.Declares name variant
      ∧ variant.domain.accept? variant.multiple raw = some variant.default

namespace SpellsOut

variable {schema : Schema} {assignments longer : NameMap SuppliedValue}

/-- What completes assignments completes them spelled out. -/
theorem completes (h : schema.SpellsOut assignments longer) {values : Values}
    (hcompletes : schema.Completes assignments values) : schema.Completes longer values := by
  refine ⟨fun name raw hlonger => ?_, fun name variant hlonger hdeclares => ?_,
    hcompletes.undeclared⟩
  · cases hassigned : assignments.get? name with
    | none =>
      obtain ⟨variant, hdeclares, haccept⟩ := h.added name raw hassigned hlonger
      exact ⟨variant, _, hdeclares, haccept,
        hcompletes.defaulted name variant hassigned hdeclares⟩
    | some original =>
      rw [h.kept name original hassigned] at hlonger
      exact hcompletes.assigned name raw (hassigned.trans hlonger)
  · cases hassigned : assignments.get? name with
    | none => exact hcompletes.defaulted name variant hassigned hdeclares
    | some raw =>
      rw [h.kept name raw hassigned] at hlonger
      cases hlonger

/-- The first assignment that does not fit is the same one, since what is added
fits. -/
theorem first (h : schema.SpellsOut assignments longer) {name : String} {raw : SuppliedValue}
    (hfirst : assignments.First (fun n r => ∃ e, schema.Misfit n r e) name raw) :
    longer.First (fun n r => ∃ e, schema.Misfit n r e) name raw := by
  refine ⟨h.kept name raw hfirst.bound, hfirst.property, fun other v hlonger hlt => ?_⟩
  cases hassigned : assignments.get? other with
  | none =>
    obtain ⟨variant, hdeclares, haccept⟩ := h.added other v hassigned hlonger
    have hfits := exists_shape_eq_ok_iff.1 ⟨_, shape_eq_ok_iff.2 ⟨variant, hdeclares, haccept⟩⟩
    exact fun ⟨error, hmisfit⟩ => hfits error hmisfit
  | some original =>
    rw [h.kept other original hassigned] at hlonger
    exact hfirst.earlier other v (hassigned.trans hlonger) hlt

/-- **Defaults that are spelled out are bound as they were**, and what fails
fails as it did. -/
theorem bind_eq (h : schema.SpellsOut assignments longer) :
    schema.bind longer = schema.bind assignments := by
  cases hbind : schema.bind assignments with
  | ok values => exact bind_eq_ok_iff.2 (h.completes (bind_eq_ok_iff.1 hbind))
  | error error =>
    obtain ⟨name, raw, hfirst, hmisfit⟩ := bind_eq_error_iff.1 hbind
    exact bind_eq_error_iff.2 ⟨name, raw, h.first hfirst, hmisfit⟩

end SpellsOut

/-- What is found among the assignments of defaults is the default of some
variant. -/
theorem exists_of_lookup_defaultAssignments {chosen : List Variant} {name : String}
    {raw : SuppliedValue} (h : (defaultAssignments chosen).reverse.lookup name = some raw) :
    ∃ variant ∈ chosen, variant.name = name ∧ variant.default.supplied = raw := by
  have hmem := List.mem_reverse.1 (NameMap.mem_of_lookup_eq_some h)
  obtain ⟨variant, hvariant, heq⟩ := List.mem_map.1 hmem
  exact ⟨variant, hvariant, congrArg Prod.fst heq, congrArg Prod.snd heq⟩

/-- Writing defaults out spells out what a spec leaves to them. -/
theorem spellsOut_writeOut {schema : Schema} (hwritable : schema.DefaultsWritable) {spec : Spec}
    {chosen : List Variant}
    (hchosen : ∀ variant ∈ chosen,
      variant ∈ schema.variants ∧ spec.variants.get? variant.name = none) :
    schema.SpellsOut spec.variants (spec.writeOut chosen).variants := by
  have hget (name : String) : (spec.writeOut chosen).variants.get? name
      = ((defaultAssignments chosen).reverse.lookup name).or (spec.variants.get? name) :=
    NameMap.get?_insertMany (defaultAssignments chosen) spec.variants name
  refine ⟨fun name raw hassigned => ?_, fun name raw hnone hlonger => ?_⟩
  · rw [hget]
    cases hlookup : (defaultAssignments chosen).reverse.lookup name with
    | none => exact hassigned
    | some other =>
      obtain ⟨variant, hvariant, rfl, _⟩ := exists_of_lookup_defaultAssignments hlookup
      rw [(hchosen variant hvariant).2] at hassigned
      cases hassigned
  · rw [hget, hnone, Option.or_none] at hlonger
    obtain ⟨variant, hvariant, rfl, rfl⟩ := exists_of_lookup_defaultAssignments hlonger
    have hmem := (hchosen variant hvariant).1
    obtain ⟨first, hfirst⟩ : ∃ first, schema.Declares variant.name first :=
      FirstIn.exists_iff.2 ⟨variant, hmem, rfl⟩
    have hfind := find?_eq_some_iff.2 hfirst
    exact ⟨first, hfirst, defaultsWritable_iff.1 hwritable variant hmem first hfind⟩

end Schema

namespace Planner

/-- **Writing a default out changes nothing.** If the defaults of a planner's
schema can be written out, then to write out those of any declared variants
that a spec leaves unassigned leaves the answer as it is, the plan or the
error. -/
theorem plan_writeOut {planner : Planner} (hwritable : planner.schema.DefaultsWritable)
    (files : Files) {spec : Spec} {chosen : List Variant}
    (hchosen : ∀ variant ∈ chosen,
      variant ∈ planner.schema.variants ∧ spec.variants.get? variant.name = none) :
    planner.plan files (spec.writeOut chosen) = planner.plan files spec :=
  plan_of_bind_eq (Schema.spellsOut_writeOut hwritable hchosen).bind_eq

/-- A rule against one of the targets. -/
def thin : Rule := ⟨"thin", .all [.enabled "zlib", .equals "targets" "ppc"], "ppc lacks zlib"⟩

/-- A package for several targets at once, which are declared twice with the
same default. -/
def portable : Planner :=
  .bare ⟨[⟨"targets", .choice ["x86", "arm", "ppc"], .texts ["arm", "x86"], true, ""⟩,
      .toggle "zlib" true "", .integer "max_dims" 3 "",
      .choice "targets" ["x86", "arm"] "x86, arm" ""]⟩ [thin]

/-- A target that does not go with a default. -/
def thinTarget : Spec := Spec.default.assign "targets" (.text "ppc")

/-- With everything written out, the targets twice, the same is planned; and
with everything but the targets written out the same conflict is reported. -/
theorem plan_writeOut_portable :
    (∃ plan, portable.plan (.ofList []) .default = .ok plan
        ∧ portable.plan (.ofList []) (Spec.default.writeOut portable.schema.variants) = .ok plan)
      ∧ (Spec.default.writeOut portable.schema.variants).variants.get? "targets"
        = some (.text "x86, arm")
      ∧ portable.plan (.ofList []) (thinTarget.writeOut portable.schema.variants.tail.dropLast)
        = .error (.conflict thin.conflict) := by
  have hwritable : portable.schema.DefaultsWritable :=
    Schema.defaultsWritable_iff.2 (by decide +kernel)
  obtain ⟨plan, hplan⟩ : ∃ plan, portable.plan (.ofList []) .default = .ok plan :=
    exists_ok_of_isOk (by decide +kernel)
  have hconflict : portable.plan (.ofList []) thinTarget = .error (.conflict thin.conflict) := by
    decide +kernel
  have hunassigned : ∀ variant ∈ portable.schema.variants.tail.dropLast,
      thinTarget.variants.get? variant.name = none := by
    decide +kernel
  refine ⟨⟨plan, hplan, ?_⟩, by decide +kernel, ?_⟩
  · rw [plan_writeOut hwritable _ fun variant hvariant => ⟨hvariant, rfl⟩, hplan]
  · rw [plan_writeOut hwritable _ fun variant hvariant =>
      ⟨List.mem_of_mem_tail (List.dropLast_subset _ hvariant), hunassigned variant hvariant⟩,
      hconflict]

end Planner

/-- **Legion's defaults can be written out.** -/
theorem Legion.schema_defaultsWritable : schema.DefaultsWritable :=
  Schema.defaultsWritable_iff.2 (by decide +kernel)

end BuildVariants
