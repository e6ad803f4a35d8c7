import BuildVariants.Legion
import BuildVariants.Proofs.Condition
import BuildVariants.Proofs.Flags
import BuildVariants.Proofs.Planner

/-!
# What each part of a plan depends on

A plan is made from many variants at once, and each of its parts from a few of
them. `CacheName.inputs` lists for every cache name the variants that its entry
is made from, and two specs that agree on these have the same arguments for the
name, however much they differ elsewhere (`outputs_depend_on_inputs`). It is a
statement about two runs: a name that looked at one variant more would break
it for some package.

The statement holds of every planner. Nothing is assumed of the schema, not
even that a variant that should be on or off is bound to a truth value.
-/

namespace BuildVariants

/-! ## The inputs of a name -/

/-- **The variants that the entry of a name is made from.** -/
def CacheName.inputs : CacheName → List String
  | networks => ["network"]
  | gasnetRoot => ["network", "gasnet_root"]
  | embedGasnet => ["network", "gasnet_root"]
  | gasnetConduit => ["network", "conduit"]
  | gasnetConfigureArgs => ["network", "gasnet_debug"]
  | sharedLibs => ["shared"]
  | boundsChecks => ["bounds_checks"]
  | privilegeChecks => ["privilege_checks"]
  | enableTls => ["enable_tls"]
  | outputLevel => ["output_level"]
  | spy => ["spy"]
  | useCuda => ["cuda"]
  | gpuReductions => ["cuda"]
  | cudaArch => ["cuda", "cuda_arch"]
  | hijackCudart => ["cuda", "cuda_hijack"]
  | nvccFlags => ["cuda", "cuda_unsupported_compiler"]
  | useFortran => ["fortran", "bindings"]
  | useHdf5 => ["hdf5"]
  | useHwloc => ["hwloc"]
  | useKokkos => ["kokkos"]
  | useLibdl => ["libdl"]
  | useOpenmp => ["openmp"]
  | usePapi => ["papi"]
  | usePython => ["python"]
  | useZlib => ["zlib"]
  | redopComplex => ["redop_complex", "bindings"]
  | buildBindings => ["bindings"]
  | maxDim => ["max_dims"]
  | maxFields => ["max_fields"]
  | buildMarch => ["native"]

namespace Values

/-- **Two builds agree on some variants.** -/
def Agree (first : Values) (names : List String) (second : Values) : Prop :=
  ∀ name ∈ names, first.get? name = second.get? name

section Readings

variable {first second : Values} {name : String} (h : first.get? name = second.get? name)

include h

theorem enabled_congr : first.enabled name = second.enabled name := by
  unfold enabled
  rw [h]

theorem text?_congr : first.text? name = second.text? name := by
  unfold text?
  rw [h]

theorem integer?_congr : first.integer? name = second.integer? name := by
  unfold integer?
  rw [h]

theorem textOrUnset_congr : Derived.textOrUnset first name = Derived.textOrUnset second name := by
  unfold Derived.textOrUnset
  rw [text?_congr h]

end Readings

end Values

open Values (enabled_congr text?_congr integer?_congr textOrUnset_congr) in
/-- **An entry depends on the inputs of its name only.** -/
theorem entryOf?_congr {first second : Values} {cxx cxx' : Option String} {name : CacheName}
    (hcxx : cxx.isSome = first.enabled "kokkos") (hcxx' : cxx'.isSome = second.enabled "kokkos")
    (h : first.Agree name.inputs second) :
    entryOf? first (.ofValues first cxx) name = entryOf? second (.ofValues second cxx') name := by
  -- the inputs of a name are one variant, or two
  cases name with
  | networks =>
    rw [entryOf?_networks, entryOf?_networks, textOrUnset_congr (h _ (.head _))]
  | gasnetRoot =>
    rw [entryOf?_gasnetRoot, entryOf?_gasnetRoot, textOrUnset_congr (h _ (.head _)),
      textOrUnset_congr (h _ (.tail _ (.head _)))]
  | embedGasnet =>
    rw [entryOf?_embedGasnet, entryOf?_embedGasnet, textOrUnset_congr (h _ (.head _)),
      textOrUnset_congr (h _ (.tail _ (.head _)))]
  | gasnetConduit =>
    rw [entryOf?_gasnetConduit, entryOf?_gasnetConduit, textOrUnset_congr (h _ (.head _)),
      textOrUnset_congr (h _ (.tail _ (.head _)))]
  | gasnetConfigureArgs =>
    rw [entryOf?_gasnetConfigureArgs, entryOf?_gasnetConfigureArgs,
      textOrUnset_congr (h _ (.head _)), enabled_congr (h _ (.tail _ (.head _)))]
  | sharedLibs | boundsChecks | privilegeChecks | enableTls | spy | useHdf5 | useHwloc | useLibdl
  | useOpenmp | usePapi | usePython | useZlib | useCuda | gpuReductions | buildBindings
  | buildMarch =>
    unfold entryOf?
    rw [enabled_congr (h _ (.head _))]
  | outputLevel =>
    unfold entryOf? Derived.ofValues
    rw [textOrUnset_congr (h _ (.head _))]
  | cudaArch =>
    unfold entryOf?
    rw [enabled_congr (h _ (.head _)), text?_congr (h _ (.tail _ (.head _)))]
  | hijackCudart | nvccFlags =>
    unfold entryOf?
    rw [enabled_congr (h _ (.head _)), enabled_congr (h _ (.tail _ (.head _)))]
  | useFortran | redopComplex =>
    unfold entryOf? Derived.ofValues
    rw [enabled_congr (h _ (.head _)), enabled_congr (h _ (.tail _ (.head _)))]
  | useKokkos =>
    have hsame : cxx.isSome = cxx'.isSome := by
      rw [hcxx, hcxx', enabled_congr (h _ (.head _))]
    unfold entryOf? Derived.ofValues
    rw [hsame]
  | maxDim | maxFields =>
    unfold entryOf? Derived.ofValues
    rw [integer?_congr (h _ (.head _))]

/-! ## The parts of a plan -/

/-- The rules look at the values and the compiler's family alone. -/
theorem Rule.check_congr {first second : ResolvedSpec} (rules : List Rule)
    (hvalues : first.values = second.values)
    (hfamily : first.compiler.family = second.compiler.family) :
    check rules first = check rules second := by
  have hbroken : broken rules first = broken rules second := by
    unfold broken
    congr 1
    funext rule
    exact Condition.holds_congr hvalues hfamily rule.condition
  unfold check
  rw [hbroken]

/-- The rows look at the values and the compiler's family alone. -/
theorem DependencyRow.active_congr {first second : ResolvedSpec} (rows : List DependencyRow)
    (hvalues : first.values = second.values)
    (hfamily : first.compiler.family = second.compiler.family) :
    active rows first = active rows second := by
  unfold active
  congr 2
  funext row
  exact Condition.holds_congr hvalues hfamily row.condition

namespace Planner

/-- The dependencies to report depend on the values and the compiler family. -/
theorem active_congr {first second : ResolvedSpec} (planner : Planner)
    (hvalues : first.values = second.values)
    (hfamily : first.compiler.family = second.compiler.family) :
    planner.active first = planner.active second := by
  unfold active
  cases planner.dependencies with
  | none => rfl
  | some rows => exact DependencyRow.active_congr rows hvalues hfamily

/-- **The answer depends on the assignments through the values they are bound
to**, or through the error that binding them ends in. -/
theorem plan_of_bind_eq {planner : Planner} {files : Files} {spec : Spec}
    {assignments : NameMap SuppliedValue}
    (h : planner.schema.bind assignments = planner.schema.bind spec.variants) :
    planner.plan files { spec with variants := assignments } = planner.plan files spec := by
  have hrules (values : Values) :
      Rule.check planner.rules ⟨{ spec with variants := assignments }, values⟩
        = Rule.check planner.rules ⟨spec, values⟩ := by
    apply Rule.check_congr <;> rfl
  have hactive (values : Values) :
      planner.active ⟨{ spec with variants := assignments }, values⟩
        = planner.active ⟨spec, values⟩ := by
    apply planner.active_congr <;> rfl
  unfold plan check
  rw [show planner.checkVersion { spec with variants := assignments } = planner.checkVersion spec
    from rfl]
  cases planner.checkVersion spec with
  | error error => rfl
  | ok _ =>
  dsimp only
  rw [h]
  cases planner.schema.bind spec.variants with
  | error error => rfl
  | ok values =>
  dsimp only
  rw [hrules]
  cases Rule.check planner.rules ⟨spec, values⟩ with
  | error conflict => rfl
  | ok _ =>
  dsimp only
  cases planner.schema.verify files values with
  | error error => rfl
  | ok _ =>
  dsimp only
  rw [hactive]
  rfl

/-- **Each part of a plan depends on its inputs only.** Of two specs that a
planner accepts, those that agree on the inputs of a cache name have the same
argument for it, or both have none; the C++ flags depend on the build type, the
environment on whether Kokkos is on and on the compiler that is known for it,
and the dependencies on the values and the compiler family. -/
theorem outputs_depend_on_inputs {planner : Planner} {files files' : Files}
    {spec spec' : Spec} {plan plan' : BuildPlan} (hplan : planner.plan files spec = .ok plan)
    (hplan' : planner.plan files' spec' = .ok plan') :
    ∃ values values', planner.schema.bind spec.variants = .ok values
      ∧ planner.schema.bind spec'.variants = .ok values'
      ∧ (∀ name : CacheName, values.Agree name.inputs values' →
          ∃ argument : Option String, plan.flags.filter (sets name) = argument.toList
            ∧ plan'.flags.filter (sets name) = argument.toList)
      ∧ (spec.buildType = spec'.buildType → plan.cxxFlags = plan'.cxxFlags)
      ∧ (values.enabled "kokkos" = values'.enabled "kokkos" →
          (spec.dependencies.get? "kokkos").bind (·.cxx)
            = (spec'.dependencies.get? "kokkos").bind (·.cxx) →
          plan.env = plan'.env)
      ∧ ((∀ name, values.get? name = values'.get? name) →
          spec.compiler.family = spec'.compiler.family →
          plan.dependencies = plan'.dependencies) := by
  obtain ⟨values, derived, hcleared, hderived, rfl⟩ := plan_eq_ok_iff.1 hplan
  obtain ⟨values', derived', hcleared', hderived', rfl⟩ := plan_eq_ok_iff.1 hplan'
  obtain ⟨heq, hsome, hcxx⟩ := Derived.eq_of_ofResolved hderived
  obtain ⟨heq', hsome', hcxx'⟩ := Derived.eq_of_ofResolved hderived'
  refine ⟨values, values', Schema.bind_eq_ok_iff.2 hcleared.completes,
    Schema.bind_eq_ok_iff.2 hcleared'.completes, ?_, ?_, ?_, ?_⟩
  · intro name hagree
    have hentry : entryOf? values derived name = entryOf? values' derived' name := by
      rw [heq, heq']
      exact entryOf?_congr hsome hsome' hagree
    refine ⟨(entryOf? values derived name).map (·.render), ?_, ?_⟩
    · rw [Option.toList_map]
      exact filter_sets_flagsOf values derived name
    · rw [hentry, Option.toList_map]
      exact filter_sets_flagsOf values' derived' name
  · intro htype
    show (if spec.buildType = .debug then _ else _) = (if spec'.buildType = .debug then _ else _)
    rw [htype]
  · intro hkokkos hknown
    have hsame : derived.kokkosCxx = derived'.kokkosCxx := by
      rw [hcxx, hcxx', hkokkos, hknown]
    unfold BuildPlan.of
    rw [hsame]
  · intro hsame hfamily
    have hvalues : values = values' := by
      obtain ⟨bindings⟩ := values
      exact congrArg Values.mk (NameMap.ext_get? hsame)
    exact active_congr planner hvalues hfamily

end Planner

namespace Legion

/-- CUDA over an embedded GASNet, for debugging. -/
def cudaDebugging : Spec :=
  { Spec.default with
    buildType := .debug
    variants := .ofList [("cuda", .bool true), ("cuda_arch", .text "80"),
      ("network", .text "gasnet"), ("conduit", .text "ibv")] }

/-- CUDA for the same architecture, switched on in another way and with other
things around it. -/
def cudaHijacking : Spec :=
  { Spec.default with
    variants := .ofList [("cuda", .text "on"), ("cuda_arch", .text "80"),
      ("cuda_hijack", .bool true), ("max_dims", .int 5)] }

/-- The argument for the architecture is the same, though more flags stand
before it in one of the lists. -/
theorem outputs_cudaDebugging :
    ∃ plan plan', package.planner.plan (.ofList []) cudaDebugging = .ok plan
      ∧ package.planner.plan (.ofList []) cudaHijacking = .ok plan'
      ∧ ∃ argument : Option String,
          plan.flags.filter (sets .cudaArch) = argument.toList
            ∧ plan'.flags.filter (sets .cudaArch) = argument.toList := by
  obtain ⟨plan, hplan⟩ : ∃ plan, package.planner.plan (.ofList []) cudaDebugging = .ok plan :=
    exists_ok_of_isOk (by decide +kernel)
  obtain ⟨plan', hplan'⟩ : ∃ plan, package.planner.plan (.ofList []) cudaHijacking = .ok plan :=
    exists_ok_of_isOk (by decide +kernel)
  obtain ⟨values, values', hbind, hbind', hflags, _⟩ :=
    Planner.outputs_depend_on_inputs hplan hplan'
  refine ⟨plan, plan', hplan, hplan', hflags .cudaArch ?_⟩
  have hsame : (schema.bind cudaDebugging.variants).toOption.map
        (fun values => CacheName.cudaArch.inputs.map values.get?)
      = (schema.bind cudaHijacking.variants).toOption.map
        (fun values => CacheName.cudaArch.inputs.map values.get?) := by
    decide +kernel
  rw [show schema.bind _ = _ from hbind, show schema.bind _ = _ from hbind'] at hsame
  exact List.map_inj_left.1 (Option.some.inj hsame)

/-- Kokkos with CUDA. -/
def kokkosOverCuda : Spec :=
  { Spec.default with
    variants := .ofList [("kokkos", .bool true), ("cuda", .bool true)]
    dependencies := .ofList
      [("kokkos", { KnownDependency.unknown with cxx := some "/opt/kokkos/bin/nvcc_wrapper" })] }

/-- Kokkos with CUDA, built with Clang. -/
def kokkosByClang : Spec := { kokkosOverCuda with compiler := ⟨.clang, none⟩ }

/-- **The values alone do not determine the dependencies.** GCC and Clang build
Kokkos with CUDA in different ways, so that the same variants come to different
dependencies. -/
theorem dependencies_follow_compiler :
    ∃ plan plan', package.planner.plan (.ofList []) kokkosOverCuda = .ok plan
      ∧ package.planner.plan (.ofList []) kokkosByClang = .ok plan'
      ∧ schema.bind kokkosOverCuda.variants = schema.bind kokkosByClang.variants
      ∧ plan.dependencies ≠ plan'.dependencies := by
  obtain ⟨plan, hplan⟩ : ∃ plan, package.planner.plan (.ofList []) kokkosOverCuda = .ok plan :=
    exists_ok_of_isOk (by decide +kernel)
  obtain ⟨plan', hplan'⟩ : ∃ plan, package.planner.plan (.ofList []) kokkosByClang = .ok plan :=
    exists_ok_of_isOk (by decide +kernel)
  refine ⟨plan, plan', hplan, hplan', rfl, fun hsame => ?_⟩
  have hother : (package.planner.plan (.ofList []) kokkosOverCuda).toOption.map (·.dependencies)
      ≠ (package.planner.plan (.ofList []) kokkosByClang).toOption.map (·.dependencies) := by
    decide +kernel
  rw [hplan, hplan'] at hother
  exact hother (congrArg some hsame)

end Legion

end BuildVariants
