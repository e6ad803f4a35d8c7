import BuildVariants.Proofs.Domain
import BuildVariants.Proofs.FirstIn
import BuildVariants.Proofs.NameMap
import BuildVariants.Schema

/-!
# What a schema makes of assignments

The two steps of resolving, described by the names they concern and without
the order in which they go through them. Binding fails with what is wrong with
the first assignment that does not fit (`bind_eq_error_iff`); otherwise it
gives the one set of values that completes the assignments
(`bind_eq_ok_iff`), where each name has what its first declaration makes of
the supplied value, or the default. Verifying fails with what the validator of
the first rejected name says (`verify_eq_error_iff`).

Names may be declared twice: everything here goes by the first declaration.
-/

namespace BuildVariants

theorem exists_ok_of_isOk {ε α : Type} {result : Except ε α} (h : result.isOk = true) :
    ∃ value, result = .ok value := by
  cases result with
  | ok value => exact ⟨value, rfl⟩
  | error error => cases h

namespace Schema

/-! ## The first declaration of a name -/

/-- **A schema declares a name as a variant**: it is the first one under this
name. -/
def Declares (schema : Schema) (name : String) (variant : Variant) : Prop :=
  FirstIn (·.name = name) schema.variants variant

/-- A name is looked up in its first declaration. -/
theorem find?_eq_some_iff {schema : Schema} {name : String} {variant : Variant} :
    schema.find? name = some variant ↔ schema.Declares name variant := by
  rw [find?, FirstIn.find?_eq_some_iff]
  simp only [decide_eq_true_eq, Declares]

theorem find?_eq_none_iff {schema : Schema} {name : String} :
    schema.find? name = none ↔ ∀ variant ∈ schema.variants, variant.name ≠ name := by
  rw [find?, List.find?_eq_none]
  simp only [decide_eq_true_eq]

/-- A name has one first declaration. -/
theorem Declares.unique {schema : Schema} {name : String} {first second : Variant}
    (hf : schema.Declares name first) (hs : schema.Declares name second) : first = second :=
  FirstIn.unique hf hs

theorem Declares.name_eq {schema : Schema} {name : String} {variant : Variant}
    (h : schema.Declares name variant) : variant.name = name := by
  unfold Declares at h
  exact h.property

/-! ## Assignments that do not fit -/

/-- **What is wrong with an assignment by itself**: its name is not declared,
or the first declaration of the name has no place for the supplied value. -/
inductive Misfit (schema : Schema) (name : String) (raw : SuppliedValue) :
    ValidationError → Prop
  | undeclared : (∀ variant ∈ schema.variants, variant.name ≠ name) →
      Misfit schema name raw (.unknownVariant name raw.render)
  | outside {variant : Variant} : schema.Declares name variant →
      variant.domain.accept? variant.multiple raw = none →
      Misfit schema name raw (.invalidDomain name raw.render variant.domain.allowed)

theorem shape_of_undeclared {schema : Schema} {name : String} (raw : SuppliedValue)
    (h : ∀ variant ∈ schema.variants, variant.name ≠ name) :
    schema.shape name raw = .error (.unknownVariant name raw.render) := by
  rw [shape, find?_eq_none_iff.2 h]

/-- A declared name takes what the domain of its first declaration accepts. -/
theorem shape_of_declares {schema : Schema} {name : String} {variant : Variant}
    (raw : SuppliedValue) (h : schema.Declares name variant) :
    schema.shape name raw
      = match variant.domain.accept? variant.multiple raw with
        | some value => .ok value
        | none => .error (.invalidDomain name raw.render variant.domain.allowed) := by
  rw [shape, find?_eq_some_iff.2 h, ← h.name_eq]
  rfl

/-- A name is declared or it is not. -/
theorem declares_or_undeclared (schema : Schema) (name : String) :
    (∃ variant, schema.Declares name variant)
      ∨ ∀ variant ∈ schema.variants, variant.name ≠ name := by
  cases hfind : schema.find? name with
  | some variant => exact .inl ⟨variant, find?_eq_some_iff.1 hfind⟩
  | none => exact .inr (find?_eq_none_iff.1 hfind)

/-- An assignment is refused exactly for what is wrong with it by itself. -/
theorem shape_eq_error_iff {schema : Schema} {name : String} {raw : SuppliedValue}
    {error : ValidationError} :
    schema.shape name raw = .error error ↔ schema.Misfit name raw error := by
  constructor
  · intro h
    rcases schema.declares_or_undeclared name with ⟨variant, hdeclares⟩ | hundeclared
    · rw [shape_of_declares raw hdeclares] at h
      split at h
      · cases h
      · next hnone =>
        obtain rfl := Except.error.inj h
        exact .outside hdeclares hnone
    · rw [shape_of_undeclared raw hundeclared] at h
      obtain rfl := Except.error.inj h
      exact .undeclared hundeclared
  · rintro (hundeclared | ⟨hdeclares, hnone⟩)
    · exact shape_of_undeclared raw hundeclared
    · rw [shape_of_declares raw hdeclares, hnone]

/-- An assignment is accepted exactly if the name is declared and its domain has a
place for the supplied value. -/
theorem shape_eq_ok_iff {schema : Schema} {name : String} {raw : SuppliedValue} {value : Value} :
    schema.shape name raw = .ok value
      ↔ ∃ variant, schema.Declares name variant
          ∧ variant.domain.accept? variant.multiple raw = some value := by
  constructor
  · intro h
    rcases schema.declares_or_undeclared name with ⟨variant, hdeclares⟩ | hundeclared
    · rw [shape_of_declares raw hdeclares] at h
      split at h
      · next hsome => exact ⟨variant, hdeclares, hsome.trans (congrArg some (Except.ok.inj h))⟩
      · cases h
    · rw [shape_of_undeclared raw hundeclared] at h
      cases h
  · rintro ⟨variant, hdeclares, hsome⟩
    rw [shape_of_declares raw hdeclares, hsome]

/-- An assignment fits or something is wrong with it. -/
theorem exists_shape_eq_ok_iff {schema : Schema} {name : String} {raw : SuppliedValue} :
    (∃ value, schema.shape name raw = .ok value) ↔ ∀ error, ¬ schema.Misfit name raw error := by
  simp only [← shape_eq_error_iff]
  cases schema.shape name raw <;> simp

/-! ## Binding -/

/-- The default of a name's first declaration fills in where nothing is
bound. -/
theorem get?_fillDefaults (schema : Schema) (assigned : NameMap Value) (name : String) :
    (schema.fillDefaults assigned).get? name
      = (assigned.get? name).or ((schema.find? name).map (·.default)) := by
  unfold fillDefaults find?
  -- each declaration in turn, with what is bound so far
  induction schema.variants generalizing assigned with
  | nil => simp
  | cons variant rest ih =>
    rw [List.foldl_cons, ih, NameMap.get?_insertIfNew, List.find?_cons]
    by_cases h : name = variant.name
    · subst h
      cases assigned.get? variant.name <;> simp
    · rw [if_neg h, decide_eq_false (Ne.symm h)]

/-- **Values complete assignments**: an assigned name has what its first
declaration makes of the supplied value, every other declared name the default
of its first declaration, and no other name has a value. -/
structure Completes (schema : Schema) (assignments : NameMap SuppliedValue) (values : Values) :
    Prop where
  assigned : ∀ name raw, assignments.get? name = some raw →
    ∃ variant value, schema.Declares name variant
      ∧ variant.domain.accept? variant.multiple raw = some value
      ∧ values.get? name = some value
  defaulted : ∀ name variant, assignments.get? name = none → schema.Declares name variant →
    values.get? name = some variant.default
  undeclared : ∀ name, (∀ variant ∈ schema.variants, variant.name ≠ name) →
    values.get? name = none

/-- An assigned name has what its first declaration makes of the supplied
value. -/
theorem Completes.get?_assigned {schema : Schema} {assignments : NameMap SuppliedValue}
    {values : Values} (h : schema.Completes assignments values) {name : String}
    {raw : SuppliedValue} {variant : Variant} {value : Value}
    (hassigned : assignments.get? name = some raw) (hdeclares : schema.Declares name variant)
    (haccept : variant.domain.accept? variant.multiple raw = some value) :
    values.get? name = some value := by
  obtain ⟨declared, made, hdeclared, hmade, hget⟩ := h.assigned name raw hassigned
  obtain rfl := hdeclared.unique hdeclares
  rw [hget, ← hmade, haccept]

/-- Assignments are completed in one way only. -/
theorem Completes.unique {schema : Schema} {assignments : NameMap SuppliedValue}
    {first second : Values} (hf : schema.Completes assignments first)
    (hs : schema.Completes assignments second) : first = second := by
  suffices h : ∀ name, first.get? name = second.get? name by
    obtain ⟨bindings⟩ := first
    exact congrArg Values.mk (NameMap.ext_get? h)
  intro name
  rcases schema.declares_or_undeclared name with ⟨variant, hdeclares⟩ | hundeclared
  · cases hassigned : assignments.get? name with
    | none => rw [hf.defaulted name variant hassigned hdeclares,
        hs.defaulted name variant hassigned hdeclares]
    | some raw =>
      obtain ⟨declared, value, hdeclared, haccept, hget⟩ := hf.assigned name raw hassigned
      rw [hget, hs.get?_assigned hassigned hdeclared haccept]
  · rw [hf.undeclared name hundeclared, hs.undeclared name hundeclared]

/-- Only assignments that fit can be completed. -/
theorem Completes.not_misfit {schema : Schema} {assignments : NameMap SuppliedValue}
    {values : Values} (h : schema.Completes assignments values) {name : String}
    {raw : SuppliedValue} (hassigned : assignments.get? name = some raw)
    (error : ValidationError) : ¬ schema.Misfit name raw error := by
  intro hmisfit
  obtain ⟨variant, value, hdeclares, haccept, _⟩ := h.assigned name raw hassigned
  have hok := shape_eq_ok_iff.2 ⟨variant, hdeclares, haccept⟩
  rw [shape_eq_error_iff.2 hmisfit] at hok
  cases hok

theorem completes_of_bind {schema : Schema} {assignments : NameMap SuppliedValue}
    {values : Values} (h : schema.bind assignments = .ok values) :
    schema.Completes assignments values := by
  unfold bind at h
  split at h
  · cases h
  · next assigned htraverse =>
    obtain rfl := Except.ok.inj h
    have hget := NameMap.get?_of_traverse htraverse
    have hvalue (name : String) : Values.get? ⟨schema.fillDefaults assigned⟩ name
        = (assigned.get? name).or ((schema.find? name).map (·.default)) :=
      get?_fillDefaults schema assigned name
    refine ⟨fun name raw hassigned => ?_, fun name variant hnone hdeclares => ?_,
      fun name hundeclared => ?_⟩
    · obtain ⟨value, hshape, hbound⟩ := (hget name).2 raw hassigned
      obtain ⟨variant, hdeclares, haccept⟩ := shape_eq_ok_iff.1 hshape
      refine ⟨variant, value, hdeclares, haccept, ?_⟩
      rw [hvalue, hbound, Option.some_or]
    · rw [hvalue, (hget name).1 hnone, Option.none_or, find?_eq_some_iff.2 hdeclares,
        Option.map_some]
    · rw [hvalue, find?_eq_none_iff.2 hundeclared, Option.map_none, Option.or_none]
      -- an undeclared name is not assigned, or binding would have failed on it
      cases hassigned : assignments.get? name with
      | none => exact (hget name).1 hassigned
      | some raw =>
        obtain ⟨_, hshape, _⟩ := (hget name).2 raw hassigned
        rw [shape_of_undeclared raw hundeclared] at hshape
        cases hshape

/-- **Binding fails with what is wrong with the first assignment that does not
fit.** -/
theorem bind_eq_error_iff {schema : Schema} {assignments : NameMap SuppliedValue}
    {error : ValidationError} :
    schema.bind assignments = .error error
      ↔ ∃ name raw,
          assignments.First (fun n r => ∃ e, schema.Misfit n r e) name raw
            ∧ schema.Misfit name raw error := by
  have htraverse : schema.bind assignments = .error error
      ↔ assignments.traverse schema.shape = .error error := by
    unfold bind
    cases assignments.traverse schema.shape <;> simp
  rw [htraverse, NameMap.traverse_eq_error_iff]
  simp only [shape_eq_error_iff]

/-- **Binding gives the values that complete the assignments,** if every
assignment fits. -/
theorem bind_eq_ok_iff {schema : Schema} {assignments : NameMap SuppliedValue} {values : Values} :
    schema.bind assignments = .ok values ↔ schema.Completes assignments values := by
  refine ⟨completes_of_bind, fun h => ?_⟩
  cases hbind : schema.bind assignments with
  | ok bound => rw [(completes_of_bind hbind).unique h]
  | error error =>
    obtain ⟨name, raw, hfirst, hmisfit⟩ := bind_eq_error_iff.1 hbind
    exact absurd hmisfit (h.not_misfit hfirst.bound error)

/-- Assignments that all fit are completed by some values. -/
theorem exists_completes_iff {schema : Schema} {assignments : NameMap SuppliedValue} :
    (∃ values, schema.Completes assignments values)
      ↔ ∀ name raw error, assignments.get? name = some raw → ¬ schema.Misfit name raw error := by
  constructor
  · rintro ⟨values, h⟩ name raw error hassigned
    exact h.not_misfit hassigned error
  · intro h
    cases hbind : schema.bind assignments with
    | ok values => exact ⟨values, completes_of_bind hbind⟩
    | error error =>
      obtain ⟨name, raw, hfirst, hmisfit⟩ := bind_eq_error_iff.1 hbind
      exact absurd hmisfit (h name raw error hfirst.bound)

/-! ## Values in their domains -/

/-- Every default of a schema lies in its domain. -/
def DefaultsAdmitted (schema : Schema) : Prop :=
  ∀ variant ∈ schema.variants, variant.domain.Admits variant.multiple variant.default

/-- **Every declared name has a value in its domain**, if the defaults lie in
theirs. -/
theorem Completes.admits {schema : Schema} {assignments : NameMap SuppliedValue}
    {values : Values} (h : schema.Completes assignments values)
    (hdefaults : schema.DefaultsAdmitted) {name : String} {variant : Variant}
    (hdeclares : schema.Declares name variant) :
    ∃ value, values.get? name = some value ∧ variant.domain.Admits variant.multiple value := by
  cases hassigned : assignments.get? name with
  | none =>
    exact ⟨_, h.defaulted name variant hassigned hdeclares, hdefaults _ (FirstIn.mem hdeclares)⟩
  | some raw =>
    obtain ⟨declared, value, hdeclared, haccept, hget⟩ := h.assigned name raw hassigned
    obtain rfl := hdeclared.unique hdeclares
    exact ⟨value, hget, Domain.admits_of_accept? haccept⟩

/-! ## Verifying -/

/-- **A validator rejects the value of a name**: the first declaration of the
name has a validator, the value is a single text, and the validator gives a
reason against it. -/
inductive Rejects (schema : Schema) (files : Files) (name : String) :
    Value → ValidationError → Prop
  | path {variant : Variant} {validator : Validator} {text reason : String} :
      schema.Declares name variant → variant.domain = .checked validator →
      validator.rejects files text = some reason →
      Rejects schema files name (.text text) (.invalidPath name text reason)

theorem failure?_eq_some_iff {schema : Schema} {files : Files} {name : String} {value : Value}
    {error : ValidationError} :
    schema.failure? files name value = some error ↔ schema.Rejects files name value error := by
  unfold failure?
  rw [Option.bind_eq_some_iff]
  constructor
  · rintro ⟨variant, hfind, hfailure⟩
    have hdeclares := find?_eq_some_iff.1 hfind
    unfold Variant.failure? at hfailure
    split at hfailure
    · next validator text hdomain =>
      obtain ⟨reason, hreason, rfl⟩ := Option.map_eq_some_iff.1 hfailure
      rw [hdeclares.name_eq]
      exact .path hdeclares hdomain hreason
    · cases hfailure
  · rintro ⟨hdeclares, hdomain, hreason⟩
    refine ⟨_, find?_eq_some_iff.2 hdeclares, ?_⟩
    simp only [Variant.failure?, hdomain, hreason, Option.map_some, hdeclares.name_eq]

/-- **Verifying fails with what the validator of the first rejected name
says.** -/
theorem verify_eq_error_iff {schema : Schema} {files : Files} {values : Values}
    {error : ValidationError} :
    schema.verify files values = .error error
      ↔ ∃ name value,
          values.bindings.First (fun n v => ∃ e, schema.Rejects files n v e) name value
            ∧ schema.Rejects files name value error := by
  have hfind : schema.verify files values = .error error
      ↔ (values.bindings.entries.findSome? fun entry =>
          schema.failure? files entry.1 entry.2) = some error := by
    unfold verify
    split
    · next h => rw [h]; simp
    · next h => rw [h]; simp
  rw [hfind, NameMap.findSome?_entries_eq_some_iff (f := schema.failure? files)]
  simp only [← Option.isSome_iff_ne_none, Option.isSome_iff_exists, failure?_eq_some_iff]

/-- **Values are verified** exactly if no validator rejects any of them. -/
theorem verify_eq_ok_iff {schema : Schema} {files : Files} {values : Values} :
    schema.verify files values = .ok ()
      ↔ ∀ name value error, values.get? name = some value →
          ¬ schema.Rejects files name value error := by
  have hfind : schema.verify files values = .ok ()
      ↔ (values.bindings.entries.findSome? fun entry =>
          schema.failure? files entry.1 entry.2) = none := by
    unfold verify
    split
    · next h => rw [h]; simp
    · next h => rw [h]; simp
  rw [hfind, NameMap.findSome?_entries_eq_none_iff (f := schema.failure? files)]
  simp only [← failure?_eq_some_iff, Option.eq_none_iff_forall_ne_some]
  exact ⟨fun h name value error hget => h name value hget error,
    fun h name value hget error => h name value error hget⟩

/-- What a schema resolves completes the assignments. -/
theorem completes_of_resolve {schema : Schema} {files : Files}
    {assignments : NameMap SuppliedValue} {values : Values}
    (h : schema.resolve files assignments = .ok values) : schema.Completes assignments values := by
  unfold resolve at h
  split at h
  · cases h
  · next bound hbind =>
    split at h
    · cases h
    · obtain rfl := Except.ok.inj h
      exact completes_of_bind hbind

end Schema

end BuildVariants
