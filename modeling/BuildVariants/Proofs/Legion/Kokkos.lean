import BuildVariants.Proofs.Condition
import BuildVariants.Proofs.Legion.Values
import BuildVariants.Proofs.Planner

/-!
# What a Legion build needs of Kokkos

Ten rows of Legion's dependencies are about Kokkos: one for each GPU
architecture and each of two compiler families, one for builds without CUDA and
one for builds with OpenMP. Which of them are active together is said by
`KokkosNeed`, and what they require together follows row by row
(`kokkos_requirements`).

The two rows that turn Kokkos' CUDA off are guarded differently: the one for
OpenMP does not ask whether CUDA is on. And no row stands for CUDA with a third
compiler family. So requirements can be missing, and they can contradict each
other, but only on CUDA.
-/

namespace BuildVariants

/-- **A requirement on a package** that some of the dependencies makes. -/
def Dependency.Required (dependencies : List Dependency) (name : String)
    (constraint : Constraint) : Prop :=
  ∃ dependency ∈ dependencies, dependency.name = name ∧ constraint ∈ dependency.constraints

namespace Legion

/-! ## The rows about Kokkos -/

/-- The compiler families that build Kokkos with CUDA, and what each of them
does about the wrapper of the CUDA compiler. -/
def wrappers : List (CompilerFamily × Constraint) :=
  [(.gcc, .on "wrapper"), (.clang, .off "wrapper")]

/-- Kokkos with CUDA for a GPU architecture. -/
def kokkosOnCuda (wrapper : Constraint) (arch : String) : Dependency :=
  kokkos.require (.on "cuda") |>.require (.on "cuda_lambda") |>.require wrapper
    |>.require (.value "cuda_arch" arch)

/-- Kokkos without CUDA. -/
def kokkosOffCuda : Dependency := kokkos.require (.off "cuda")

/-- Kokkos with OpenMP. -/
def kokkosOnOpenmp : Dependency := kokkosOffCuda.require (.on "openmp")

/-- What guards a row about Kokkos with CUDA. -/
def onCuda (family : CompilerFamily) (arch : String) : Condition :=
  .all [.compiler family, .enabled "kokkos", .enabled "cuda", .equals "cuda_arch" arch]

theorem kokkosForCuda_eq (arch : String) :
    kokkosForCuda arch
      = wrappers.map fun pair => ⟨onCuda pair.1 arch, kokkosOnCuda pair.2 arch⟩ :=
  rfl

/-- **The rows on Kokkos** are those for an architecture and a compiler family, the
one without CUDA and the one with OpenMP. -/
theorem mem_dependencies_kokkos_iff {row : DependencyRow} :
    row ∈ dependencies ∧ row.dependency.name = "kokkos"
      ↔ (∃ arch ∈ cudaArchitectures, ∃ pair ∈ wrappers,
          row = ⟨onCuda pair.1 arch, kokkosOnCuda pair.2 arch⟩)
        ∨ row = ⟨.all [.enabled "kokkos", .disabled "cuda"], kokkosOffCuda⟩
        ∨ row = ⟨.all [.enabled "kokkos", .enabled "openmp"], kokkosOnOpenmp⟩ := by
  have hcuda : row ∈ cudaArchitectures.flatMap kokkosForCuda
      ↔ ∃ arch ∈ cudaArchitectures, ∃ pair ∈ wrappers,
          row = ⟨onCuda pair.1 arch, kokkosOnCuda pair.2 arch⟩ := by
    simp only [List.mem_flatMap, kokkosForCuda_eq, List.mem_map, eq_comm]
  unfold dependencies
  rw [List.mem_append, List.mem_append, hcuda]
  constructor
  -- what stands before and behind the rows about Kokkos has other names
  · rintro ⟨(hother | hcuda) | hlast, hname⟩
    · exact absurd hname ((by decide : ∀ row ∈ _, row.dependency.name ≠ "kokkos") row hother)
    · exact .inl hcuda
    · simp only [List.mem_cons, List.not_mem_nil, or_false] at hlast
      rcases hlast with rfl | rfl | rfl | rfl | rfl
      · exact .inr (.inl rfl)
      · exact .inr (.inr rfl)
      all_goals exact absurd hname (by decide)
  · rintro (⟨arch, harch, pair, hpair, rfl⟩ | rfl | rfl)
    · exact ⟨.inl (.inr ⟨arch, harch, pair, hpair, rfl⟩), rfl⟩
    · exact ⟨.inr (.head _), rfl⟩
    · exact ⟨.inr (.tail _ (.head _)), rfl⟩

/-! ## What is needed -/

/-- **What is needed of Kokkos** by a build that has it on. -/
inductive KokkosNeed (spec : Spec) (values : Values) : Dependency → Prop
  /-- CUDA is on, and the compiler family knows how to build Kokkos with it. -/
  | cuda {family : CompilerFamily} {wrapper : Constraint} {arch : String} :
      (family, wrapper) ∈ wrappers → spec.compiler.family = family →
      values.get? "cuda" = some (.bool true) → values.get? "cuda_arch" = some (.text arch) →
      KokkosNeed spec values (kokkosOnCuda wrapper arch)
  /-- CUDA is off. -/
  | plain : values.get? "cuda" = some (.bool false) → KokkosNeed spec values kokkosOffCuda
  /-- OpenMP is on. -/
  | openmp : values.get? "openmp" = some (.bool true) → KokkosNeed spec values kokkosOnOpenmp

section Needs

variable {assignments : NameMap SuppliedValue} {values : Values} {spec : Spec}

/-- A row for an architecture and a family applies to the specs of that family that
select the architecture. -/
theorem holds_onCuda_iff {family : CompilerFamily} {arch selected : String}
    (hkokkos : values.get? "kokkos" = some (.bool true))
    (harch : values.get? "cuda_arch" = some (.text selected)) :
    (onCuda family arch).holds ⟨spec, values⟩ = true
      ↔ spec.compiler.family = family ∧ values.get? "cuda" = some (.bool true)
        ∧ values.get? "cuda_arch" = some (.text arch) := by
  unfold onCuda
  rw [Condition.holds_all_iff, List.forall_mem_cons, List.forall_mem_cons, List.forall_mem_cons,
    List.forall_mem_singleton, Condition.holds_compiler_iff, Condition.holds_enabled_iff,
    Condition.holds_enabled_iff, Condition.holds_equals_iff harch, and_iff_right hkokkos]
  rfl

/-- **The dependencies on Kokkos that are active** are what is needed of it. -/
theorem active_kokkos_iff (h : schema.Completes assignments values)
    (hkokkos : values.get? "kokkos" = some (.bool true)) {dependency : Dependency} :
    dependency ∈ DependencyRow.active dependencies ⟨spec, values⟩ ∧ dependency.name = "kokkos"
      ↔ KokkosNeed spec values dependency := by
  obtain ⟨_, hcuda⟩ := exists_bool h (show schema.find? "cuda" = _ from rfl)
  obtain ⟨arch, hmem, harch⟩ := exists_name h (show schema.find? "cuda_arch" = _ from rfl)
  have hplain : (Condition.all [.enabled "kokkos", .disabled "cuda"]).holds ⟨spec, values⟩ = true
      ↔ values.get? "cuda" = some (.bool false) := by
    rw [Condition.holds_both_iff, Condition.holds_enabled_iff, Condition.holds_disabled_iff hcuda]
    exact and_iff_right hkokkos
  have hopenmp : (Condition.all [.enabled "kokkos", .enabled "openmp"]).holds ⟨spec, values⟩ = true
      ↔ values.get? "openmp" = some (.bool true) := by
    rw [Condition.holds_both_iff, Condition.holds_enabled_iff, Condition.holds_enabled_iff]
    exact and_iff_right hkokkos
  rw [DependencyRow.mem_active_iff]
  constructor
  · rintro ⟨⟨row, hrow, hholds, rfl⟩, hname⟩
    rcases mem_dependencies_kokkos_iff.1 ⟨hrow, hname⟩ with ⟨_, _, pair, hpair, rfl⟩ | rfl | rfl
    · obtain ⟨hfamily, hon, heq⟩ := (holds_onCuda_iff hkokkos harch).1 hholds
      exact .cuda hpair hfamily hon heq
    · exact .plain (hplain.1 hholds)
    · exact .openmp (hopenmp.1 hholds)
  · intro hneed
    suffices hrow : ∃ row, (row ∈ dependencies ∧ row.dependency.name = "kokkos")
        ∧ row.condition.holds ⟨spec, values⟩ = true ∧ row.dependency = dependency by
      obtain ⟨row, ⟨hmem, hname⟩, hholds, rfl⟩ := hrow
      exact ⟨⟨row, hmem, hholds, rfl⟩, hname⟩
    simp only [mem_dependencies_kokkos_iff]
    cases hneed with
    | @cuda family wrapper selected hpair hfamily hon heq =>
      obtain rfl : arch = selected := by simpa using harch.symm.trans heq
      exact ⟨_, .inl ⟨arch, hmem, _, hpair, rfl⟩,
        (holds_onCuda_iff hkokkos harch).2 ⟨hfamily, hon, heq⟩, rfl⟩
    | plain hoff => exact ⟨_, .inr (.inl rfl), hplain.2 hoff, rfl⟩
    | openmp hon => exact ⟨_, .inr (.inr rfl), hopenmp.2 hon, rfl⟩

theorem constraints_kokkosOnCuda (wrapper : Constraint) (arch : String) :
    (kokkosOnCuda wrapper arch).constraints
      = [.on "cuda", .on "cuda_lambda", wrapper, .value "cuda_arch" arch] :=
  rfl

theorem constraints_kokkosOffCuda : kokkosOffCuda.constraints = [.off "cuda"] := rfl

theorem constraints_kokkosOnOpenmp : kokkosOnOpenmp.constraints = [.off "cuda", .on "openmp"] :=
  rfl

/-- Kokkos is built with the wrapper under GCC and without it under Clang. -/
theorem mem_wrappers_iff {family : CompilerFamily} {wrapper : Constraint} :
    (family, wrapper) ∈ wrappers
      ↔ family = .gcc ∧ wrapper = .on "wrapper" ∨ family = .clang ∧ wrapper = .off "wrapper" := by
  rw [wrappers, List.mem_pair, Prod.mk.injEq, Prod.mk.injEq]

/-- **What is required of Kokkos**, constraint by constraint. -/
theorem required_kokkos_iff (h : schema.Completes assignments values)
    (hkokkos : values.get? "kokkos" = some (.bool true)) {constraint : Constraint} :
    Dependency.Required (DependencyRow.active dependencies ⟨spec, values⟩) "kokkos" constraint
      ↔ values.get? "cuda" = some (.bool true)
          ∧ (spec.compiler.family = .gcc ∨ spec.compiler.family = .clang)
          ∧ (constraint = .on "cuda" ∨ constraint = .on "cuda_lambda"
            ∨ spec.compiler.family = .gcc ∧ constraint = .on "wrapper"
            ∨ spec.compiler.family = .clang ∧ constraint = .off "wrapper"
            ∨ ∃ arch, values.get? "cuda_arch" = some (.text arch)
                ∧ constraint = .value "cuda_arch" arch)
        ∨ (values.get? "cuda" = some (.bool false) ∨ values.get? "openmp" = some (.bool true))
          ∧ constraint = .off "cuda"
        ∨ values.get? "openmp" = some (.bool true) ∧ constraint = .on "openmp" := by
  obtain ⟨arch, _, harch⟩ := exists_name h (show schema.find? "cuda_arch" = _ from rfl)
  have hneeds :
      Dependency.Required (DependencyRow.active dependencies ⟨spec, values⟩) "kokkos" constraint
        ↔ ∃ dependency, KokkosNeed spec values dependency
            ∧ constraint ∈ dependency.constraints := by
    refine exists_congr fun dependency => ?_
    rw [← and_assoc, active_kokkos_iff h hkokkos]
  rw [hneeds]
  constructor
  · rintro ⟨_, hneed, hmem⟩
    cases hneed with
    | cuda hpair hfamily hon heq =>
      rw [constraints_kokkosOnCuda] at hmem
      rw [mem_wrappers_iff] at hpair
      subst hfamily
      simp only [List.mem_cons, List.not_mem_nil, or_false] at hmem
      refine .inl ⟨hon, hpair.imp And.left And.left, ?_⟩
      rcases hmem with rfl | rfl | rfl | rfl
      · exact .inl rfl
      · exact .inr (.inl rfl)
      · exact .inr (.inr (hpair.imp id .inl))
      · exact .inr (.inr (.inr (.inr ⟨_, heq, rfl⟩)))
    | plain hoff =>
      rw [constraints_kokkosOffCuda, List.mem_singleton] at hmem
      exact .inr (.inl ⟨.inl hoff, hmem⟩)
    | openmp hon =>
      rw [constraints_kokkosOnOpenmp, List.mem_pair] at hmem
      exact .inr (hmem.imp (⟨.inr hon, ·⟩) (⟨hon, ·⟩))
  · rintro (⟨hon, hfamily, hconstraint⟩ | ⟨hoff | hon, rfl⟩ | ⟨hon, rfl⟩)
    -- a family that is known comes with a wrapper, and so with a need
    · have hneed {wrapper : Constraint} (hpair : (spec.compiler.family, wrapper) ∈ wrappers) :
          KokkosNeed spec values (kokkosOnCuda wrapper arch) := .cuda hpair rfl hon harch
      obtain ⟨wrapper, hpair⟩ : ∃ wrapper, (spec.compiler.family, wrapper) ∈ wrappers := by
        rcases hfamily with hgcc | hclang
        · exact ⟨_, mem_wrappers_iff.2 (.inl ⟨hgcc, rfl⟩)⟩
        · exact ⟨_, mem_wrappers_iff.2 (.inr ⟨hclang, rfl⟩)⟩
      rcases hconstraint with rfl | rfl | ⟨hgcc, rfl⟩ | ⟨hclang, rfl⟩ | ⟨selected, heq, rfl⟩
      · exact ⟨_, hneed hpair, .head _⟩
      · exact ⟨_, hneed hpair, .tail _ (.head _)⟩
      · exact ⟨_, hneed (mem_wrappers_iff.2 (.inl ⟨hgcc, rfl⟩)), .tail _ (.tail _ (.head _))⟩
      · exact ⟨_, hneed (mem_wrappers_iff.2 (.inr ⟨hclang, rfl⟩)), .tail _ (.tail _ (.head _))⟩
      · exact ⟨_, .cuda hpair rfl hon heq, .tail _ (.tail _ (.tail _ (.head _)))⟩
    · exact ⟨_, .plain hoff, .head _⟩
    · exact ⟨_, .openmp hon, .head _⟩
    · exact ⟨_, .openmp hon, .tail _ (.head _)⟩

/-- **What is asked to be on**: with CUDA, under the families that build for it, CUDA
and its lambdas, and under GCC the wrapper; with OpenMP, OpenMP. -/
theorem required_on_iff (h : schema.Completes assignments values)
    (hkokkos : values.get? "kokkos" = some (.bool true)) {variant : String} :
    Dependency.Required (DependencyRow.active dependencies ⟨spec, values⟩) "kokkos" (.on variant)
      ↔ values.get? "cuda" = some (.bool true)
          ∧ (spec.compiler.family = .gcc ∨ spec.compiler.family = .clang)
          ∧ (variant = "cuda" ∨ variant = "cuda_lambda"
            ∨ spec.compiler.family = .gcc ∧ variant = "wrapper")
        ∨ values.get? "openmp" = some (.bool true) ∧ variant = "openmp" := by
  rw [required_kokkos_iff h hkokkos]
  simp

/-- **What is asked to be off**: with CUDA, under Clang the wrapper; without CUDA or with
OpenMP, CUDA. -/
theorem required_off_iff (h : schema.Completes assignments values)
    (hkokkos : values.get? "kokkos" = some (.bool true)) {variant : String} :
    Dependency.Required (DependencyRow.active dependencies ⟨spec, values⟩) "kokkos" (.off variant)
      ↔ values.get? "cuda" = some (.bool true)
          ∧ (spec.compiler.family = .clang ∧ variant = "wrapper")
        ∨ (values.get? "cuda" = some (.bool false) ∨ values.get? "openmp" = some (.bool true))
          ∧ variant = "cuda" := by
  rw [required_kokkos_iff h hkokkos]
  simp only [reduceCtorEq, Constraint.off.injEq, false_or, or_false, and_false, exists_const]
  exact or_congr_left (and_congr_right fun _ => and_iff_right_of_imp fun hclang => .inr hclang.1)

/-- **What is asked to have a value**: the architecture alone, with CUDA and a
family that can build for it. -/
theorem required_value_iff (h : schema.Completes assignments values)
    (hkokkos : values.get? "kokkos" = some (.bool true)) {variant setting : String} :
    Dependency.Required (DependencyRow.active dependencies ⟨spec, values⟩) "kokkos"
        (.value variant setting)
      ↔ values.get? "cuda" = some (.bool true)
          ∧ (spec.compiler.family = .gcc ∨ spec.compiler.family = .clang)
          ∧ values.get? "cuda_arch" = some (.text setting) ∧ variant = "cuda_arch" := by
  rw [required_kokkos_iff h hkokkos]
  simp

/-- There is a need if CUDA is off, or the compiler family can build with it,
or OpenMP is on. -/
theorem exists_kokkosNeed_iff (h : schema.Completes assignments values) :
    (∃ dependency, KokkosNeed spec values dependency)
      ↔ values.get? "cuda" = some (.bool false) ∨ values.get? "openmp" = some (.bool true)
        ∨ spec.compiler.family = .gcc ∨ spec.compiler.family = .clang := by
  obtain ⟨cuda, hcuda⟩ := exists_bool h (show schema.find? "cuda" = _ from rfl)
  obtain ⟨arch, _, harch⟩ := exists_name h (show schema.find? "cuda_arch" = _ from rfl)
  constructor
  · rintro ⟨_, hpair | hoff | hon⟩
    · next hfamily _ _ =>
      subst hfamily
      exact .inr (.inr ((mem_wrappers_iff.1 hpair).imp And.left And.left))
    · exact .inl hoff
    · exact .inr (.inl hon)
  · rintro (hoff | hon | hfamily)
    · exact ⟨_, .plain hoff⟩
    · exact ⟨_, .openmp hon⟩
    · cases cuda with
      | false => exact ⟨_, .plain hcuda⟩
      | true =>
        rcases hfamily with hgcc | hclang
        · exact ⟨_, .cuda (mem_wrappers_iff.2 (.inl ⟨rfl, rfl⟩)) hgcc hcuda harch⟩
        · exact ⟨_, .cuda (mem_wrappers_iff.2 (.inr ⟨rfl, rfl⟩)) hclang hcuda harch⟩

end Needs

/-! ## Whether the needs can be met -/

/-- **What an accepted spec requires of Kokkos**, if it has Kokkos on. Something
is required unless CUDA is on with a third compiler family and without OpenMP;
no variant is required on and off at once but `cuda`, by a build with CUDA and
OpenMP; no variant is required to have two values; and `cuda` is required on by
builds with CUDA that a compiler family is known for, and off by builds without
CUDA and builds with OpenMP. -/
theorem kokkos_requirements {files : Files} {spec : Spec} {plan : BuildPlan}
    (hplan : package.planner.plan files spec = .ok plan) :
    ∃ values, schema.bind spec.variants = .ok values
      ∧ (values.get? "kokkos" = some (.bool true) →
        ((∃ dependency ∈ plan.dependencies, dependency.name = "kokkos")
          ↔ values.get? "cuda" = some (.bool false) ∨ values.get? "openmp" = some (.bool true)
            ∨ spec.compiler.family = .gcc ∨ spec.compiler.family = .clang)
        ∧ (∀ variant, (Dependency.Required plan.dependencies "kokkos" (.on variant)
              ∧ Dependency.Required plan.dependencies "kokkos" (.off variant))
            ↔ variant = "cuda" ∧ values.get? "cuda" = some (.bool true)
              ∧ values.get? "openmp" = some (.bool true)
              ∧ (spec.compiler.family = .gcc ∨ spec.compiler.family = .clang))
        ∧ (∀ variant first second,
            Dependency.Required plan.dependencies "kokkos" (.value variant first) →
            Dependency.Required plan.dependencies "kokkos" (.value variant second) →
            first = second)
        ∧ (Dependency.Required plan.dependencies "kokkos" (.on "cuda")
            ↔ values.get? "cuda" = some (.bool true)
              ∧ (spec.compiler.family = .gcc ∨ spec.compiler.family = .clang))
        ∧ (Dependency.Required plan.dependencies "kokkos" (.off "cuda")
            ↔ values.get? "cuda" = some (.bool false)
              ∨ values.get? "openmp" = some (.bool true))) := by
  obtain ⟨values, derived, hcleared, _, rfl⟩ := Planner.plan_eq_ok_iff.1 hplan
  have h := hcleared.completes
  refine ⟨values, Schema.bind_eq_ok_iff.2 h, fun hkokkos => ?_⟩
  refine ⟨?_, fun variant => ?_, fun variant first second hfirst hsecond => ?_, ?_, ?_⟩
  · rw [← exists_kokkosNeed_iff h]
    exact exists_congr fun dependency => active_kokkos_iff h hkokkos
  · refine (and_congr (required_on_iff h hkokkos) (required_off_iff h hkokkos)).trans ⟨?_, ?_⟩
    · rintro ⟨hon, ⟨_, hclang, rfl⟩ | ⟨hoff | hopenmp, rfl⟩⟩
      · simp [hclang] at hon
      · simp [hoff] at hon
      · rcases hon with ⟨hcuda, hfamily, _⟩ | ⟨_, hname⟩
        · exact ⟨rfl, hcuda, hopenmp, hfamily⟩
        · exact absurd hname (by decide)
    · rintro ⟨rfl, hcuda, hopenmp, hfamily⟩
      exact ⟨.inl ⟨hcuda, hfamily, .inl rfl⟩, .inr ⟨.inr hopenmp, rfl⟩⟩
  · obtain ⟨_, _, hget, _⟩ := (required_value_iff h hkokkos).1 hfirst
    obtain ⟨_, _, hget', _⟩ := (required_value_iff h hkokkos).1 hsecond
    simpa using hget.symm.trans hget'
  · exact (required_on_iff h hkokkos).trans (by simp)
  · exact (required_off_iff h hkokkos).trans (by simp)

/-- Kokkos and CUDA with the compiler of Kokkos known. -/
def kokkosAndCuda : Spec :=
  ((Spec.default.assign "kokkos" (.bool true)).assign "cuda" (.text "ON")).addDependency "kokkos"
    ⟨none, none, some "/opt/kokkos/bin/nvcc_wrapper"⟩

/-- That spec has a plan, which asks for Kokkos with CUDA on and not for Kokkos with
CUDA off. -/
theorem plan_kokkosAndCuda :
    ∃ plan, package.planner.plan (.ofList []) kokkosAndCuda = .ok plan
      ∧ Dependency.Required plan.dependencies "kokkos" (.on "cuda")
      ∧ ¬ Dependency.Required plan.dependencies "kokkos" (.off "cuda") := by
  obtain ⟨plan, hplan⟩ : ∃ plan, package.planner.plan (.ofList []) kokkosAndCuda = .ok plan :=
    exists_ok_of_isOk (by decide +kernel)
  obtain ⟨values, hbind, hneeds⟩ := kokkos_requirements hplan
  have hcompletes := Schema.bind_eq_ok_iff.1 hbind
  have hkokkos : values.get? "kokkos" = some (.bool true) :=
    hcompletes.get?_assigned rfl (Schema.find?_eq_some_iff.1 rfl) rfl
  have hcuda : values.get? "cuda" = some (.bool true) :=
    hcompletes.get?_assigned rfl (Schema.find?_eq_some_iff.1 rfl) rfl
  have hopenmp : values.get? "openmp" = some (.bool false) :=
    hcompletes.defaulted "openmp" _ rfl (Schema.find?_eq_some_iff.1 rfl)
  obtain ⟨_, _, _, hon, hoff⟩ := hneeds hkokkos
  refine ⟨plan, hplan, hon.2 ⟨hcuda, .inl rfl⟩, fun hrequired => ?_⟩
  rw [hoff, hcuda, hopenmp] at hrequired
  revert hrequired
  decide

/-- **The needs of Kokkos cannot always be met.** With CUDA and OpenMP, GCC
requires Kokkos' CUDA both on and off; with CUDA and a third compiler family
nothing is required of Kokkos at all. -/
theorem kokkos_unmet :
    (∃ plan, package.planner.plan (.ofList []) (kokkosAndCuda.assign "openmp" (.bool true))
        = .ok plan
      ∧ Dependency.Required plan.dependencies "kokkos" (.on "cuda")
      ∧ Dependency.Required plan.dependencies "kokkos" (.off "cuda"))
    ∧ ∃ plan, package.planner.plan (.ofList [])
          { kokkosAndCuda with compiler := ⟨.other "intel", none⟩ } = .ok plan
        ∧ ∀ dependency ∈ plan.dependencies, dependency.name ≠ "kokkos" := by
  constructor
  · obtain ⟨plan, hplan⟩ : ∃ plan, package.planner.plan (.ofList [])
        (kokkosAndCuda.assign "openmp" (.bool true)) = .ok plan :=
      exists_ok_of_isOk (by decide +kernel)
    obtain ⟨values, _, ⟨_, hcompletes, _, _⟩, _, rfl⟩ := Planner.plan_eq_ok_iff.1 hplan
    have hkokkos : values.get? "kokkos" = some (.bool true) :=
      hcompletes.get?_assigned rfl (Schema.find?_eq_some_iff.1 rfl) rfl
    have hcuda : values.get? "cuda" = some (.bool true) :=
      hcompletes.get?_assigned rfl (Schema.find?_eq_some_iff.1 rfl) rfl
    have hopenmp : values.get? "openmp" = some (.bool true) :=
      hcompletes.get?_assigned rfl (Schema.find?_eq_some_iff.1 rfl) rfl
    exact ⟨_, hplan, (required_on_iff hcompletes hkokkos).2 (.inl ⟨hcuda, .inl rfl, .inl rfl⟩),
      (required_off_iff hcompletes hkokkos).2 (.inr ⟨.inr hopenmp, rfl⟩)⟩
  · obtain ⟨plan, hplan⟩ : ∃ plan, package.planner.plan (.ofList [])
        { kokkosAndCuda with compiler := ⟨.other "intel", none⟩ } = .ok plan :=
      exists_ok_of_isOk (by decide +kernel)
    obtain ⟨values, _, ⟨_, hcompletes, _, _⟩, _, rfl⟩ := Planner.plan_eq_ok_iff.1 hplan
    have hkokkos : values.get? "kokkos" = some (.bool true) :=
      hcompletes.get?_assigned rfl (Schema.find?_eq_some_iff.1 rfl) rfl
    have hcuda : values.get? "cuda" = some (.bool true) :=
      hcompletes.get?_assigned rfl (Schema.find?_eq_some_iff.1 rfl) rfl
    have hopenmp : values.get? "openmp" = some (.bool false) :=
      hcompletes.defaulted "openmp" _ rfl (Schema.find?_eq_some_iff.1 rfl)
    refine ⟨_, hplan, fun dependency hmem hname => ?_⟩
    have hneed := (exists_kokkosNeed_iff hcompletes).1
      ⟨_, (active_kokkos_iff hcompletes hkokkos).1 ⟨hmem, hname⟩⟩
    rw [hcuda, hopenmp] at hneed
    revert hneed
    decide

end Legion

end BuildVariants
