import BuildVariants.Legion
import BuildVariants.Proofs.Planner

/-!
# What the answers of validators can change

Validators are the only part of planning that looks at files, and two runs on
the same spec can differ in nothing but what they answer. `Planner.Alike`
relates two planners that differ at most in that; asked of two file systems, a
planner is related to itself. `plan_of_alike` is the main statement: a version
that is not listed, an assignment that does not fit or a broken rule is reported
alike in both runs, and so is a plan.

The reason is that a run has a part before the validators and one behind them
which do not ask them. The first, `Planner.screen`, ends in an early error or in
values. The second, `Planner.conclude`, goes on from the values. All that
validators can do is to keep the one from being followed by the other
(`plan_cases`).
-/

namespace BuildVariants

/-! ## Alike but for the answers -/

/-- **Two domains that differ at most in what their validators answer.** -/
inductive Domain.Alike : Domain → Domain → Prop
  | same (domain : Domain) : Alike domain domain
  | checked {first second : Validator} : first.description = second.description →
      Alike (.checked first) (.checked second)

/-- Domains that are alike accept the same and make the same of it. -/
theorem Domain.Alike.accept?_eq {first second : Domain} (h : first.Alike second)
    (multiple : Bool) (raw : SuppliedValue) :
    first.accept? multiple raw = second.accept? multiple raw := by
  cases h with
  | same => rfl
  | checked => cases raw <;> rfl

theorem Domain.Alike.allowed_eq {first second : Domain} (h : first.Alike second) :
    first.allowed = second.allowed := by
  cases h with
  | same => rfl
  | checked hdescription => exact congrArg (fun description => [description]) hdescription

/-- **Two variants that differ at most in what their validators answer.** -/
structure Variant.Alike (first second : Variant) : Prop where
  name : first.name = second.name
  domain : first.domain.Alike second.domain
  default : first.default = second.default
  multiple : first.multiple = second.multiple

/-- Variants that are alike shape a supplied value in the same way. -/
theorem Variant.Alike.shape_eq {first second : Variant} (h : first.Alike second)
    (raw : SuppliedValue) : first.shape raw = second.shape raw := by
  unfold shape
  rw [h.multiple, h.domain.accept?_eq, h.domain.allowed_eq, h.name]

/-- **Two schemas that declare alike variants in the same order.** -/
def Schema.Alike (first second : Schema) : Prop :=
  List.Forall₂ Variant.Alike first.variants second.variants

namespace Schema

variable {first second : Schema}

/-- A name has alike first declarations in both schemas, or none in either. -/
theorem Alike.find?_rel (h : first.Alike second) (name : String) :
    Option.Rel Variant.Alike (first.find? name) (second.find? name) := by
  obtain ⟨variants⟩ := first
  obtain ⟨others⟩ := second
  unfold Alike at h
  unfold find?
  dsimp only at h ⊢
  induction h with
  | nil => exact .none
  | cons hvariant _ ih =>
    rw [List.find?_cons, List.find?_cons, hvariant.name]
    split
    · exact .some hvariant
    · exact ih

theorem Alike.shape_eq (h : first.Alike second) (name : String) (raw : SuppliedValue) :
    first.shape name raw = second.shape name raw := by
  have hrel := h.find?_rel name
  unfold shape
  generalize first.find? name = declared, second.find? name = other at hrel
  cases hrel with
  | none => rfl
  | some hvariant => exact hvariant.shape_eq raw

theorem Alike.fillDefaults_eq (h : first.Alike second) (assigned : NameMap Value) :
    first.fillDefaults assigned = second.fillDefaults assigned := by
  obtain ⟨variants⟩ := first
  obtain ⟨others⟩ := second
  unfold Alike at h
  unfold fillDefaults
  dsimp only at h ⊢
  induction h generalizing assigned with
  | nil => rfl
  | cons hvariant _ ih => rw [List.foldl_cons, List.foldl_cons, hvariant.name, hvariant.default, ih]

/-- **Alike schemas bind alike**, since binding asks no validator. -/
theorem Alike.bind_eq (h : first.Alike second) (assignments : NameMap SuppliedValue) :
    first.bind assignments = second.bind assignments := by
  have hshape : first.shape = second.shape := by
    funext name raw
    exact h.shape_eq name raw
  have hfill : first.fillDefaults = second.fillDefaults := by
    funext assigned
    exact h.fillDefaults_eq assigned
  unfold bind
  rw [hshape, hfill]

end Schema

/-- **Two planners that differ at most in what their validators answer.** -/
structure Planner.Alike (first second : Planner) : Prop where
  schema : first.schema.Alike second.schema
  rules : first.rules = second.rules
  dependencies : first.dependencies = second.dependencies
  versions : first.versions = second.versions

/-! ## Other answers -/

/-- A variant whose validator, if it has one, answers in another way. -/
def Variant.answering (rejects : Files → String → Option String) (variant : Variant) : Variant :=
  match variant.domain with
  | .checked validator => { variant with domain := .checked { validator with rejects } }
  | _ => variant

/-- Only its validator can tell a variant from one with other answers. -/
theorem Variant.alike_answering (rejects : Files → String → Option String) (variant : Variant) :
    variant.Alike (variant.answering rejects) := by
  unfold answering
  split
  · next validator hdomain => exact ⟨rfl, hdomain ▸ .checked rfl, rfl, rfl⟩
  · exact ⟨rfl, .same _, rfl, rfl⟩

/-- A planner whose validators answer in another way. -/
def Planner.answering (planner : Planner) (rejects : Files → String → Option String) : Planner :=
  { planner with schema := ⟨planner.schema.variants.map (·.answering rejects)⟩ }

/-- A planner is like the one with other answers. -/
theorem Planner.alike_answering (planner : Planner) (rejects : Files → String → Option String) :
    planner.Alike (planner.answering rejects) := by
  refine ⟨?_, rfl, rfl, rfl⟩
  refine List.forall₂_map_right_iff.2 (List.forall₂_same.2 fun variant _ => ?_)
  exact variant.alike_answering rejects

/-! ## Before and behind the validators -/

/-- **An error that is found before a validator is asked**: a value that is not
in its domain, the version among them, a name that is not declared, or a broken
rule. -/
def SelectionError.isEarly : SelectionError → Bool
  | .validation (.unknownVariant ..) | .validation (.invalidDomain ..) | .conflict _ => true
  | .validation (.invalidPath ..) | .validation (.unresolvedDependency ..) => false

namespace Planner

/-- What the gate finds before it asks a validator. -/
def screen (planner : Planner) (spec : Spec) : Except SelectionError Values :=
  match planner.checkVersion spec with
  | .error error => .error (.validation error)
  | .ok () =>
    match planner.schema.bind spec.variants with
    | .error error => .error (.validation error)
    | .ok values =>
      match Rule.check planner.rules ⟨spec, values⟩ with
      | .error conflict => .error (.conflict conflict)
      | .ok () => .ok values

/-- What values come to that the gate lets through. -/
def conclude (planner : Planner) (spec : Spec) (values : Values) :
    Except SelectionError BuildPlan :=
  match Derived.ofResolved ⟨spec, values⟩ with
  | .error error => .error (.validation error)
  | .ok derived => .ok (.of ⟨spec, values⟩ derived (planner.active ⟨spec, values⟩))

/-- **Planning is screening, asking the validators and concluding.** -/
theorem plan_eq_screen (planner : Planner) (files : Files) (spec : Spec) :
    planner.plan files spec
      = match planner.screen spec with
        | .error error => .error error
        | .ok values =>
          match planner.schema.verify files values with
          | .error error => .error (.validation error)
          | .ok () => planner.conclude spec values := by
  unfold plan check screen
  cases planner.checkVersion spec with
  | error error => rfl
  | ok _ =>
  cases planner.schema.bind spec.variants with
  | error error => rfl
  | ok values =>
  dsimp only
  cases Rule.check planner.rules ⟨spec, values⟩ with
  | error conflict => rfl
  | ok _ =>
    dsimp only
    cases planner.schema.verify files values <;> rfl

/-- What the gate finds before it asks a validator is an early error. -/
theorem isEarly_of_screen {planner : Planner} {spec : Spec} {error : SelectionError}
    (h : planner.screen spec = .error error) : error.isEarly = true := by
  unfold screen at h
  split at h
  · next hversion =>
    obtain rfl := Except.error.inj h
    obtain ⟨versions, _, _, rfl⟩ := checkVersion_eq_error_iff.1 hversion
    rfl
  · split at h
    · next hbind =>
      obtain rfl := Except.error.inj h
      obtain ⟨name, raw, _, hmisfit⟩ := Schema.bind_eq_error_iff.1 hbind
      cases hmisfit <;> rfl
    · split at h
      · obtain rfl := Except.error.inj h
        rfl
      · cases h

/-- What is found behind the gate is no early error. -/
theorem not_isEarly_of_conclude {planner : Planner} {spec : Spec} {values : Values}
    {error : SelectionError} (h : planner.conclude spec values = .error error) :
    error.isEarly = false := by
  unfold conclude at h
  split at h
  · next other hderived =>
    obtain rfl := Except.error.inj h
    cases henabled : values.enabled "kokkos" with
    | false =>
      rw [Derived.ofResolved_of_disabled henabled] at hderived
      cases hderived
    | true =>
      rcases Derived.known_or_unknown spec with ⟨known, cxx, hknown, hcxx⟩ | hunknown
      · rw [Derived.ofResolved_of_known henabled hknown hcxx] at hderived
        cases hderived
      · rw [Derived.ofResolved_of_unknown henabled hunknown] at hderived
        obtain rfl := Except.error.inj hderived
        rfl
  · cases h

/-- **What a run ends in**: in what screening finds, or else in a path that a
validator rejects, or else in what concluding gives. Only which one of the last
two it is depends on the answers of the validators. -/
theorem plan_cases (planner : Planner) (files : Files) (spec : Spec) :
    (∃ error, planner.screen spec = .error error ∧ planner.plan files spec = .error error)
      ∨ ∃ values, planner.screen spec = .ok values
        ∧ ((∃ name value reason,
              planner.plan files spec = .error (.validation (.invalidPath name value reason)))
            ∨ planner.plan files spec = planner.conclude spec values) := by
  rw [plan_eq_screen]
  cases planner.screen spec with
  | error error => exact .inl ⟨error, rfl, rfl⟩
  | ok values =>
    refine .inr ⟨values, rfl, ?_⟩
    dsimp only
    cases hverify : planner.schema.verify files values with
    | error error =>
      obtain ⟨name, value, _, hrejects⟩ := Schema.verify_eq_error_iff.1 hverify
      cases hrejects
      exact .inl ⟨_, _, _, rfl⟩
    | ok _ => exact .inr rfl

/-! ## Two runs -/

section TwoRuns

variable {first second : Planner}

/-- Planners that are alike find the same before a validator is asked. -/
theorem Alike.screen_eq (h : first.Alike second) (spec : Spec) :
    first.screen spec = second.screen spec := by
  unfold screen checkVersion
  rw [h.versions, h.schema.bind_eq, h.rules]

/-- Planners that are alike make the same plan of values. -/
theorem Alike.conclude_eq (h : first.Alike second) (spec : Spec) (values : Values) :
    first.conclude spec values = second.conclude spec values := by
  unfold conclude active
  rw [h.dependencies]

/-- An early error is what screening finds. -/
theorem plan_eq_early_iff {planner : Planner} {files : Files} {spec : Spec}
    {error : SelectionError} (hearly : error.isEarly = true) :
    planner.plan files spec = .error error ↔ planner.screen spec = .error error := by
  rcases planner.plan_cases files spec with
    ⟨found, hscreen, hplan⟩ | ⟨values, hscreen, ⟨name, value, reason, hplan⟩ | hplan⟩
  · rw [hplan, hscreen]
    simp only [Except.error.injEq]
  · rw [hplan, hscreen]
    refine iff_of_false (fun h => ?_) (fun h => by cases h)
    obtain rfl := Except.error.inj h
    cases hearly
  · rw [hplan, hscreen]
    refine iff_of_false (fun h => ?_) (fun h => by cases h)
    rw [not_isEarly_of_conclude h] at hearly
    cases hearly

/-- **Only the last steps depend on what validators answer.** Take two runs on
one spec that differ at most in these answers, by other validators or by other
files. An early error of one run is the error of the other; two plans are the
same plan; and, more than that, the runs end alike unless one of them ends in a
path that is rejected. -/
theorem plan_of_alike (h : first.Alike second) (files others : Files) (spec : Spec) :
    (∀ error, error.isEarly = true →
        (first.plan files spec = .error error ↔ second.plan others spec = .error error))
      ∧ (∀ plan plan', first.plan files spec = .ok plan → second.plan others spec = .ok plan' →
          plan = plan')
      ∧ ((∀ name value reason,
            first.plan files spec ≠ .error (.validation (.invalidPath name value reason))) →
          (∀ name value reason,
            second.plan others spec ≠ .error (.validation (.invalidPath name value reason))) →
          first.plan files spec = second.plan others spec) := by
  have halike : (∀ name value reason,
        first.plan files spec ≠ .error (.validation (.invalidPath name value reason))) →
      (∀ name value reason,
        second.plan others spec ≠ .error (.validation (.invalidPath name value reason))) →
      first.plan files spec = second.plan others spec := by
    intro hfirst hsecond
    rcases first.plan_cases files spec with
      ⟨error, hscreen, hplan⟩ | ⟨values, hscreen, ⟨name, value, reason, hplan⟩ | hplan⟩
    · have hearly := isEarly_of_screen hscreen
      rw [hplan, (plan_eq_early_iff hearly).2 (h.screen_eq spec ▸ hscreen)]
    · exact absurd hplan (hfirst name value reason)
    · rcases second.plan_cases others spec with
        ⟨error, hscreen', _⟩ | ⟨values', hscreen', ⟨name, value, reason, hplan'⟩ | hplan'⟩
      · rw [← h.screen_eq spec, hscreen] at hscreen'
        cases hscreen'
      · exact absurd hplan' (hsecond name value reason)
      · rw [← h.screen_eq spec, hscreen] at hscreen'
        obtain rfl := Except.ok.inj hscreen'
        rw [hplan, hplan', h.conclude_eq]
  refine ⟨fun error hearly => ?_, fun plan plan' hplan hplan' => ?_, halike⟩
  · rw [plan_eq_early_iff hearly, plan_eq_early_iff hearly, h.screen_eq]
  · have heq := halike (fun _ _ _ hpath => by rw [hplan] at hpath; cases hpath)
      (fun _ _ _ hpath => by rw [hplan'] at hpath; cases hpath)
    rw [hplan, hplan'] at heq
    exact Except.ok.inj heq

end TwoRuns

end Planner

namespace Legion

/-- A place for GASNet without GASNet as the transport layer. -/
def rootWithoutGasnet : Spec :=
  { Spec.default with
    variants := .ofList [("gasnet_root", .text "/opt/gasnet"), ("cuda_hijack", .bool true)] }

/-- GASNet at that place. -/
def rootedGasnet : Spec :=
  { Spec.default with
    variants := .ofList [("gasnet_root", .text "/opt/gasnet"), ("network", .text "gasnet"),
      ("conduit", .text "ibv")] }

/-- The conflict is reported though every path is rejected, and the plan that
is made where the place is a directory is the one that is made where every path
is accepted. -/
theorem plan_answersAside :
    (∃ conflict, package.planner.plan (.ofList []) rootWithoutGasnet = .error (.conflict conflict)
        ∧ (package.planner.answering fun _ _ => some "unreachable").plan (.ofList [])
            rootWithoutGasnet = .error (.conflict conflict))
      ∧ ∃ plan, package.planner.plan (.ofList [("/opt/gasnet", .ok .directory)]) rootedGasnet
            = .ok plan
          ∧ (package.planner.answering fun _ _ => none).plan (.ofList []) rootedGasnet
            = .ok plan := by
  constructor
  · obtain ⟨conflict, hconflict⟩ : ∃ conflict,
        package.planner.plan (.ofList []) rootWithoutGasnet = .error (.conflict conflict) :=
      ⟨(Rule.conflict (rules.head (by decide))), by decide +kernel⟩
    exact ⟨conflict, hconflict, ((Planner.plan_of_alike (Planner.alike_answering _ _) _ _ _).1
      (.conflict conflict) rfl).1 hconflict⟩
  · obtain ⟨plan, hplan⟩ : ∃ plan,
        package.planner.plan (.ofList [("/opt/gasnet", .ok .directory)]) rootedGasnet = .ok plan :=
      exists_ok_of_isOk (by decide +kernel)
    obtain ⟨plan', hplan'⟩ : ∃ plan,
        (package.planner.answering fun _ _ => none).plan (.ofList []) rootedGasnet = .ok plan :=
      exists_ok_of_isOk (by decide +kernel)
    obtain rfl := (Planner.plan_of_alike (Planner.alike_answering _ _) _ _ _).2.1 _ _ hplan hplan'
    exact ⟨plan, hplan, hplan'⟩

end Legion

end BuildVariants
