import BuildVariants.Legion
import BuildVariants.Proofs.Planner

/-!
# The parts a planner can do without

A planner needs a schema and rules. Rows of dependencies and a list of versions
can be added to it, and then they do their own work and nothing else: the rows
are looked at once a plan is made and only fill in its dependencies, and the
list is looked at before anything else and only keeps specs out.

So it makes no difference to the rest of a plan, or to the error that is
reported in its place, with which of the two a planner is equipped, as long as
the version of the spec is listed. `optional_parts` is the main statement. Each
part is followed through the gate (`check_accepting`) or behind it
(`plan_reporting`) by itself.
-/

namespace BuildVariants

/-- A plan that does not say what it depends on. -/
def BuildPlan.withoutDependencies (plan : BuildPlan) : BuildPlan := { plan with dependencies := [] }

namespace Planner

variable {planner : Planner}

/-! ## Rows of dependencies -/

/-- The gate does not look at dependencies. -/
theorem check_reporting (planner : Planner) (rows : List DependencyRow) (files : Files)
    (spec : Spec) : (planner.reporting rows).check files spec = planner.check files spec := rfl

/-- A planner without rows reports no dependencies. -/
theorem dependencies_of_plan (hnone : planner.dependencies = none) {files : Files} {spec : Spec}
    {plan : BuildPlan} (h : planner.plan files spec = .ok plan) : plan.dependencies = [] := by
  obtain ⟨values, derived, _, _, rfl⟩ := plan_eq_ok_iff.1 h
  show planner.active _ = []
  rw [active, hnone]

/-- **With rows a planner ends as it does without them**, but for the
dependencies in its plan. -/
theorem plan_reporting (hnone : planner.dependencies = none) (rows : List DependencyRow)
    (files : Files) (spec : Spec) :
    ((planner.reporting rows).plan files spec).map BuildPlan.withoutDependencies
      = planner.plan files spec := by
  unfold plan
  rw [check_reporting]
  cases planner.check files spec with
  | error error => rfl
  | ok resolved =>
    dsimp only
    cases Derived.ofResolved resolved with
    | error error => rfl
    | ok derived =>
      rw [show planner.active resolved = [] by rw [active, hnone]]
      rfl

/-- **What is filled in are the rows that hold**, in the order of their
declaration, on the values that complete the assignments. -/
theorem plan_reporting_of_plan {files : Files} {spec : Spec} {plan : BuildPlan}
    (h : planner.plan files spec = .ok plan) (rows : List DependencyRow) :
    ∃ values, planner.schema.Completes spec.variants values
      ∧ (planner.reporting rows).plan files spec
        = .ok { plan with dependencies :=
            (rows.filter (·.condition.holds ⟨spec, values⟩)).map (·.dependency) } := by
  obtain ⟨values, derived, hcleared, hderived, rfl⟩ := plan_eq_ok_iff.1 h
  refine ⟨values, hcleared.completes, plan_eq_ok_iff.2 ⟨values, derived, ?_, hderived, rfl⟩⟩
  exact ⟨hcleared.listed, hcleared.completes, hcleared.unbroken, hcleared.accepted⟩

/-! ## A list of versions -/

/-- **A list of versions keeps out what it does not list**, before anything
else is looked at, and lets everything else through to the same gate. -/
theorem check_accepting (hnone : planner.versions = none) (versions : List String)
    (files : Files) (spec : Spec) :
    (planner.accepting versions).check files spec
      = if spec.version ∈ versions then planner.check files spec
        else .error (.validation (.invalidDomain "version" spec.version versions)) := by
  have hopen : planner.checkVersion spec = .ok () :=
    checkVersion_eq_ok_iff.2 fun listed hlisted => by rw [hnone] at hlisted; cases hlisted
  split
  · next hmem =>
    have hlisted : (planner.accepting versions).checkVersion spec = .ok () := by
      refine checkVersion_eq_ok_iff.2 fun listed hlisted => ?_
      rwa [← Option.some.inj hlisted]
    unfold check
    rw [hlisted, hopen]
    rfl
  · next hnot =>
    unfold check
    rw [checkVersion_eq_error_iff.2 ⟨versions, rfl, hnot, rfl⟩]

/-- What is planned with a list of versions is what is planned without it, or
the version is reported. -/
theorem plan_accepting (planner : Planner) (hnone : planner.versions = none)
    (versions : List String) (files : Files) (spec : Spec) :
    (planner.accepting versions).plan files spec
      = if spec.version ∈ versions then planner.plan files spec
        else .error (.validation (.invalidDomain "version" spec.version versions)) := by
  unfold plan
  rw [check_accepting hnone]
  by_cases hmem : spec.version ∈ versions
  · rw [if_pos hmem, if_pos hmem]
    rfl
  · rw [if_neg hmem, if_neg hmem]

/-! ## All parts -/

/-- **The optional parts of a planner do not bear on the rest.** Rows of
dependencies that are added to a planner change neither whether it plans nor
the error it reports, and of a plan only the dependencies: there were none, and
then they are those of the rows that hold, in the order of the rows. A list of
versions that is added turns the answer into an error about the version if the
version is not listed, whatever else is wrong with the spec, and leaves it as
it is if the version is listed. So with both, either or neither of them a
planner answers alike on a version that is listed. -/
theorem optional_parts (planner : Planner) (files : Files) (spec : Spec)
    (rows : List DependencyRow) (versions : List String) :
    (planner.dependencies = none →
        ((planner.reporting rows).plan files spec).map BuildPlan.withoutDependencies
            = planner.plan files spec
          ∧ ∀ plan, planner.plan files spec = .ok plan →
              plan.dependencies = []
              ∧ ∃ values, planner.schema.Completes spec.variants values
                ∧ (planner.reporting rows).plan files spec
                  = .ok { plan with dependencies :=
                      (rows.filter (·.condition.holds ⟨spec, values⟩)).map (·.dependency) })
      ∧ (planner.versions = none →
          (planner.accepting versions).plan files spec
            = if spec.version ∈ versions then planner.plan files spec
              else .error (.validation (.invalidDomain "version" spec.version versions)))
      ∧ (planner.dependencies = none → planner.versions = none → spec.version ∈ versions →
          (planner.accepting versions).plan files spec = planner.plan files spec
          ∧ ((planner.reporting rows).accepting versions).plan files spec
            = (planner.reporting rows).plan files spec
          ∧ (((planner.reporting rows).accepting versions).plan files spec).map
              BuildPlan.withoutDependencies = (planner.accepting versions).plan files spec) := by
  refine ⟨fun hrows => ⟨plan_reporting hrows rows files spec, fun plan hplan => ?_⟩,
    fun hversions => plan_accepting planner hversions versions files spec,
    fun hrows hversions hlisted => ?_⟩
  · exact ⟨dependencies_of_plan hrows hplan, plan_reporting_of_plan hplan rows⟩
  · have hbare := plan_accepting planner hversions versions files spec
    have hfull := plan_accepting (planner.reporting rows) hversions versions files spec
    rw [if_pos hlisted] at hbare hfull
    refine ⟨hbare, hfull, ?_⟩
    rw [hfull, hbare]
    exact plan_reporting hrows rows files spec

end Planner

namespace Legion

/-- Legion's schema and rules alone. -/
def barePlanner : Planner := .bare schema rules

/-- GASNet with CUDA and Kokkos, of a version that is listed. -/
def kokkosOverGasnet : Spec :=
  { Spec.default with
    version := "cr"
    variants := .ofList [("network", .text "gasnet"), ("conduit", .text "ucx"),
      ("kokkos", .text "on"), ("openmp", .bool true)]
    dependencies := .ofList
      [("kokkos", { KnownDependency.unknown with cxx := some "/usr/bin/g++" })] }

/-- The same of a version that is not listed, with an unknown variant and
without a compiler for Kokkos. -/
def unlistedKokkos : Spec :=
  { kokkosOverGasnet with
    version := "0.1"
    variants := kokkosOverGasnet.variants.insert "colour" (.text "red")
    dependencies := .empty }

/-- The full planner adds six dependencies to the bare one's plan, and of what
is wrong with the other spec it reports the version. -/
theorem parts_kokkosOverGasnet :
    ∃ plan full, barePlanner.plan (.ofList []) kokkosOverGasnet = .ok plan
      ∧ package.planner.plan (.ofList []) kokkosOverGasnet = .ok full
      ∧ full.withoutDependencies = plan
      ∧ full.dependencies.map (·.name) = ["cmake", "mpi", "ucx", "kokkos", "kokkos", "zlib"]
      ∧ package.planner.plan (.ofList []) unlistedKokkos
        = .error (.validation (.invalidDomain "version" "0.1" versions)) := by
  obtain ⟨plan, hplan⟩ : ∃ plan, barePlanner.plan (.ofList []) kokkosOverGasnet = .ok plan :=
    exists_ok_of_isOk (by decide +kernel)
  obtain ⟨full, hfull⟩ :
      ∃ full, package.planner.plan (.ofList []) kokkosOverGasnet = .ok full :=
    exists_ok_of_isOk (by decide +kernel)
  have hnames : (package.planner.plan (.ofList []) kokkosOverGasnet).toOption.map
        (·.dependencies.map (·.name))
      = some ["cmake", "mpi", "ucx", "kokkos", "kokkos", "zlib"] := by
    decide +kernel
  rw [hfull] at hnames
  obtain ⟨_, _, hparts⟩ :=
    Planner.optional_parts barePlanner (.ofList []) kokkosOverGasnet dependencies versions
  obtain ⟨hbare, _, hsame⟩ := hparts rfl rfl (by decide)
  obtain ⟨_, hversion, _⟩ :=
    Planner.optional_parts (barePlanner.reporting dependencies) (.ofList []) unlistedKokkos
      dependencies versions
  have hagree : (package.planner.plan (.ofList []) kokkosOverGasnet).map
      BuildPlan.withoutDependencies = .ok plan := hsame.trans (hbare.trans hplan)
  rw [hfull] at hagree
  exact ⟨plan, full, hplan, hfull, Except.ok.inj hagree, Option.some.inj hnames, hversion rfl⟩

end Legion

end BuildVariants
