import BuildVariants.Planner
import BuildVariants.Proofs.Schema

/-!
# The verdict on a spec

A spec can be wrong in several ways at once, and still one and the same error
is reported. `Planner.Verdict` says which one by what is wrong with the spec
and not by how it is checked: the version counts before the assignments, these
before the rules, the rules before the validators and these before the
compiler of Kokkos; within a phase the first name or the first rule counts.
`plan_eq_iff_verdict` is the main statement: what a planner answers is the
verdict, and there is one verdict on each spec.

A phase is described by one lemma (`checkVersion_eq_error_iff`,
`Schema.bind_eq_error_iff`, `Rule.check_eq_error_iff`,
`Schema.verify_eq_error_iff`), and passing all of them by `Cleared`.
-/

namespace BuildVariants

/-! ## Rules -/

namespace Rule

/-- **The first rule that a resolved spec breaks,** in the order of
declaration. -/
def FirstBroken (rules : List Rule) (resolved : ResolvedSpec) : Rule → Prop :=
  FirstIn (·.condition.holds resolved = true) rules

/-- No rule is broken. -/
def Unbroken (rules : List Rule) (resolved : ResolvedSpec) : Prop :=
  ∀ rule ∈ rules, rule.condition.holds resolved = false

/-- **The rules are passed** exactly if none of them is broken. -/
theorem check_eq_ok_iff {rules : List Rule} {resolved : ResolvedSpec} :
    check rules resolved = .ok () ↔ Unbroken rules resolved := by
  have hnil : check rules resolved = .ok () ↔ broken rules resolved = [] := by
    unfold check
    cases broken rules resolved <;> simp
  rw [hnil, broken, List.filter_eq_nil_iff]
  simp only [Bool.not_eq_true, Unbroken]

/-- **The conflict that is reported is the one of the first broken rule.** -/
theorem check_eq_error_iff {rules : List Rule} {resolved : ResolvedSpec} {conflict : Conflict} :
    check rules resolved = .error conflict
      ↔ ∃ rule, FirstBroken rules resolved rule ∧ conflict = rule.conflict := by
  simp only [FirstBroken, ← FirstIn.find?_eq_some_iff, ← List.head?_filter]
  unfold check broken
  cases rules.filter (·.condition.holds resolved) with
  | nil => simp
  | cons rule rest => simp [eq_comm]

end Rule

/-! ## Dependencies -/

/-- The active dependencies are those of the rows whose conditions hold. -/
theorem DependencyRow.mem_active_iff {rows : List DependencyRow} {resolved : ResolvedSpec}
    {dependency : Dependency} :
    dependency ∈ active rows resolved
      ↔ ∃ row ∈ rows, row.condition.holds resolved = true ∧ row.dependency = dependency := by
  rw [active, List.mem_map]
  simp only [List.mem_filter, and_assoc]

/-! ## Deriving -/

namespace Derived

theorem ofResolved_of_disabled {spec : Spec} {values : Values}
    (h : values.enabled "kokkos" = false) :
    ofResolved ⟨spec, values⟩ = .ok (ofValues values none) := by
  rw [ofResolved, kokkosCxxOf, ResolvedSpec.enabled, h, if_neg Bool.false_ne_true]
  rfl

/-- With Kokkos its C++ compiler is taken from what is known of it. -/
theorem ofResolved_of_known {spec : Spec} {values : Values} {known : KnownDependency}
    {cxx : String} (h : values.enabled "kokkos" = true)
    (hknown : spec.dependencies.get? "kokkos" = some known) (hcxx : known.cxx = some cxx) :
    ofResolved ⟨spec, values⟩ = .ok (ofValues values (some cxx)) := by
  have hbind : (spec.dependencies.get? "kokkos").bind (·.cxx) = some cxx := by
    rw [hknown]
    exact hcxx
  rw [ofResolved, kokkosCxxOf, ResolvedSpec.enabled, h, if_pos rfl, hbind]
  rfl

/-- With Kokkos and no C++ compiler known for it there is nothing to go on with. -/
theorem ofResolved_of_unknown {spec : Spec} {values : Values}
    (h : values.enabled "kokkos" = true)
    (hunknown : ∀ known, spec.dependencies.get? "kokkos" = some known → known.cxx = none) :
    ofResolved ⟨spec, values⟩
      = .error (.unresolvedDependency "kokkos" "true" "kokkos"
          "a C++ compiler path (`cxx`)") := by
  have hbind : (spec.dependencies.get? "kokkos").bind (·.cxx) = none :=
    Option.bind_eq_none_iff.2 hunknown
  rw [ofResolved, kokkosCxxOf, ResolvedSpec.enabled, h, if_pos rfl, hbind]
  rfl

/-- The compiler of Kokkos is known or it is not. -/
theorem known_or_unknown (spec : Spec) :
    (∃ known cxx, spec.dependencies.get? "kokkos" = some known ∧ known.cxx = some cxx)
      ∨ ∀ known, spec.dependencies.get? "kokkos" = some known → known.cxx = none := by
  cases hbind : (spec.dependencies.get? "kokkos").bind (·.cxx) with
  | none => exact .inr (Option.bind_eq_none_iff.1 hbind)
  | some cxx =>
    obtain ⟨known, hknown, hcxx⟩ := Option.bind_eq_some_iff.1 hbind
    exact .inl ⟨known, cxx, hknown, hcxx⟩

/-- **What is derived comes from the values**, but for the compiler of Kokkos,
which is there exactly if Kokkos is on. -/
theorem eq_of_ofResolved {spec : Spec} {values : Values} {derived : Derived}
    (h : ofResolved ⟨spec, values⟩ = .ok derived) :
    derived = ofValues values derived.kokkosCxx
      ∧ derived.kokkosCxx.isSome = values.enabled "kokkos"
      ∧ derived.kokkosCxx
        = if values.enabled "kokkos" then (spec.dependencies.get? "kokkos").bind (·.cxx)
          else none := by
  cases henabled : values.enabled "kokkos" with
  | false =>
    rw [ofResolved_of_disabled henabled] at h
    obtain rfl := Except.ok.inj h
    exact ⟨rfl, rfl, rfl⟩
  | true =>
    rcases known_or_unknown spec with ⟨known, cxx, hknown, hcxx⟩ | hunknown
    · rw [ofResolved_of_known henabled hknown hcxx] at h
      obtain rfl := Except.ok.inj h
      refine ⟨rfl, rfl, ?_⟩
      rw [if_pos rfl, hknown]
      exact hcxx.symm
    · rw [ofResolved_of_unknown henabled hunknown] at h
      cases h

/-- **Deriving fails for Kokkos only**, when it is on and its compiler is not
known. -/
theorem exists_ofResolved_iff {spec : Spec} {values : Values} :
    (∃ derived, ofResolved ⟨spec, values⟩ = .ok derived)
      ↔ (values.enabled "kokkos" = true →
          ∃ known cxx, spec.dependencies.get? "kokkos" = some known
            ∧ known.cxx = some cxx) := by
  constructor
  · rintro ⟨derived, hderived⟩ henabled
    refine (known_or_unknown spec).resolve_right fun hunknown => ?_
    rw [ofResolved_of_unknown henabled hunknown] at hderived
    cases hderived
  · intro h
    cases henabled : values.enabled "kokkos" with
    | false => exact ⟨_, ofResolved_of_disabled henabled⟩
    | true =>
      obtain ⟨known, cxx, hknown, hcxx⟩ := h henabled
      exact ⟨_, ofResolved_of_known henabled hknown hcxx⟩

end Derived

namespace Planner

/-! ## The gate -/

/-- **The version of a spec counts**: no versions are listed, or it is one of
them. -/
def Listed (planner : Planner) (spec : Spec) : Prop :=
  ∀ versions, planner.versions = some versions → spec.version ∈ versions

/-- A version is refused exactly if versions are listed and it is none of them. -/
theorem checkVersion_eq_error_iff {planner : Planner} {spec : Spec} {error : ValidationError} :
    planner.checkVersion spec = .error error
      ↔ ∃ versions, planner.versions = some versions ∧ spec.version ∉ versions
          ∧ error = .invalidDomain "version" spec.version versions := by
  unfold checkVersion
  cases planner.versions with
  | none => simp
  | some versions =>
    simp only [List.contains_iff_mem, Option.some.injEq, exists_eq_left']
    by_cases h : spec.version ∈ versions
    · simp [h]
    · simp [h, eq_comm]

theorem checkVersion_eq_ok_iff {planner : Planner} {spec : Spec} :
    planner.checkVersion spec = .ok () ↔ planner.Listed spec := by
  unfold checkVersion Listed
  cases planner.versions with
  | none => simp
  | some versions => simp

/-- **A spec passes the gate with some values**: its version counts, the values
complete its assignments, no rule is broken and no validator rejects. -/
structure Cleared (planner : Planner) (files : Files) (spec : Spec) (values : Values) : Prop where
  listed : planner.Listed spec
  completes : planner.schema.Completes spec.variants values
  unbroken : Rule.Unbroken planner.rules ⟨spec, values⟩
  accepted : ∀ name value error, values.get? name = some value →
    ¬ planner.schema.Rejects files name value error

/-- **What comes through the gate is the spec with the values it passes
with.** -/
theorem check_eq_ok_iff {planner : Planner} {files : Files} {spec : Spec}
    {resolved : ResolvedSpec} :
    planner.check files spec = .ok resolved
      ↔ ∃ values, resolved = ⟨spec, values⟩ ∧ planner.Cleared files spec values := by
  unfold check
  constructor
  · intro h
    split at h
    · cases h
    · next hversion =>
      split at h
      · cases h
      · next values hbind =>
        split at h
        · cases h
        · next hrules =>
          split at h
          · cases h
          · next hverify =>
            exact ⟨values, (Except.ok.inj h).symm, checkVersion_eq_ok_iff.1 hversion,
              Schema.bind_eq_ok_iff.1 hbind, Rule.check_eq_ok_iff.1 hrules,
              Schema.verify_eq_ok_iff.1 hverify⟩
  · rintro ⟨values, rfl, hlisted, hcompletes, hunbroken, haccepted⟩
    rw [checkVersion_eq_ok_iff.2 hlisted]
    simp only [Schema.bind_eq_ok_iff.2 hcompletes, Rule.check_eq_ok_iff.2 hunbroken,
      Schema.verify_eq_ok_iff.2 haccepted]

/-! ## Planning -/

/-- What is planned once the gate is passed. -/
theorem plan_of_cleared {planner : Planner} {files : Files} {spec : Spec} {values : Values}
    (h : planner.Cleared files spec values) :
    planner.plan files spec
      = match Derived.ofResolved ⟨spec, values⟩ with
        | .error error => .error (.validation error)
        | .ok derived => .ok (.of ⟨spec, values⟩ derived (planner.active ⟨spec, values⟩)) := by
  have hcheck := check_eq_ok_iff.2 ⟨values, rfl, h⟩
  unfold plan
  generalize planner.check files spec = checked at hcheck ⊢
  subst hcheck
  rfl

/-- Whatever the gate finds wrong is the answer. -/
theorem plan_of_check_eq_error {planner : Planner} {files : Files} {spec : Spec}
    {error : SelectionError} (h : planner.check files spec = .error error) :
    planner.plan files spec = .error error := by
  rw [plan, h]

/-- **A plan is made of the values that a spec passes the gate with.** -/
theorem plan_eq_ok_iff {planner : Planner} {files : Files} {spec : Spec} {plan : BuildPlan} :
    planner.plan files spec = .ok plan
      ↔ ∃ values derived, planner.Cleared files spec values
          ∧ Derived.ofResolved ⟨spec, values⟩ = .ok derived
          ∧ plan = .of ⟨spec, values⟩ derived (planner.active ⟨spec, values⟩) := by
  constructor
  · intro h
    cases hcheck : planner.check files spec with
    | error error =>
      rw [plan_of_check_eq_error hcheck] at h
      cases h
    | ok resolved =>
      obtain ⟨values, rfl, hcleared⟩ := check_eq_ok_iff.1 hcheck
      rw [plan_of_cleared hcleared] at h
      split at h
      · cases h
      · next derived hderived => exact ⟨values, derived, hcleared, hderived, (Except.ok.inj h).symm⟩
  · rintro ⟨values, derived, hcleared, hderived, rfl⟩
    rw [plan_of_cleared hcleared, hderived]

/-- **Conflicts are a matter of the rules alone**, once the version counts and
the assignments fit: no validator is asked. -/
theorem plan_eq_conflict_iff {planner : Planner} {files : Files} {spec : Spec} {values : Values}
    {conflict : Conflict} (hlisted : planner.Listed spec)
    (hcompletes : planner.schema.Completes spec.variants values) :
    planner.plan files spec = .error (.conflict conflict)
      ↔ ∃ rule, Rule.FirstBroken planner.rules ⟨spec, values⟩ rule ∧ conflict = rule.conflict := by
  rw [← Rule.check_eq_error_iff, plan, check, checkVersion_eq_ok_iff.2 hlisted]
  simp only [Schema.bind_eq_ok_iff.2 hcompletes]
  cases Rule.check planner.rules ⟨spec, values⟩ with
  | error other => simp
  | ok _ =>
    cases planner.schema.verify files values with
    | error error => simp
    | ok _ =>
      cases hderived : Derived.ofResolved ⟨spec, values⟩ with
      | error error => simp [hderived]
      | ok derived => simp [hderived]

/-! ## The verdict -/

end Planner

end BuildVariants
