import BuildVariants.Proofs.Flags
import BuildVariants.Proofs.Legion.Values
import BuildVariants.Proofs.Planner

/-!
# The flags determine the configuration

Two specs of Legion that come to the same flags are built alike: the flags fix
the transport layer with its settings, every limit, and whether each of the
features is on (`flags_determine_configuration`). What they leave open is said
by what is missing from the statement: a variant that another one overrides,
the settings of CUDA where it is off, and the compiler of Kokkos, which goes
into the environment.

Each cache name is read off the list by itself (`entryOf?_eq_of_flagsOf_eq`),
so nothing depends on where the flags of one name end in the list and those of
the next begin, nor on the characters that a path holds.
-/

namespace BuildVariants

section Entries

variable {values values' : Values} {derived derived' : Derived}
  (h : ∀ name, entryOf? values derived name = entryOf? values' derived' name)

include h

/-! ## What entries determine -/

/-- **The entries determine the transport layer**: one tells its kind, and the
others where GASNet comes from, its conduit and whether it is debugged. -/
theorem transport_eq_of_entries : derived.transport = derived'.transport := by
  have hkind := h .networks
  have hroot := h .gasnetRoot
  have hconduit := h .gasnetConduit
  have hdebug := h .gasnetConfigureArgs
  unfold entryOf? at hkind hroot hconduit hdebug
  generalize derived.transport = first at hkind hroot hconduit hdebug ⊢
  generalize derived'.transport = second at hkind hroot hconduit hdebug ⊢
  cases first with
  | gasnet source conduit debug =>
    cases second with
    | gasnet source' conduit' debug' =>
      obtain rfl : conduit = conduit' := CacheEntry.plain_inj.1 (Option.some.inj hconduit)
      have hsource : source = source' := by
        cases source with
        | embedded =>
          cases source' with
          | embedded => rfl
          | external root' => cases hroot
        | external root =>
          cases source' with
          | embedded => cases hroot
          | external root' => rw [CacheEntry.plain_inj.1 (Option.some.inj hroot)]
      have hsame : debug = debug' := by
        revert hdebug
        cases debug <;> cases debug' <;> simp
      rw [hsource, hsame]
    | mpi => simp [CacheEntry.plain] at hkind
    | none => cases hkind
  | mpi =>
    cases second with
    | gasnet => simp [CacheEntry.plain] at hkind
    | mpi => rfl
    | none => cases hkind
  | none =>
    cases second with
    | gasnet => cases hkind
    | mpi => cases hkind
    | none => rfl

/-- The output level is read off its entry. -/
theorem outputLevel_eq_of_entries : derived.outputLevel = derived'.outputLevel :=
  CacheEntry.plain_inj.1 (Option.some.inj (h .outputLevel))

theorem redopComplex_eq_of_entries : derived.redopComplex = derived'.redopComplex :=
  CacheEntry.switch_inj.1 (Option.some.inj (h .redopComplex))

theorem fortran_eq_of_entries : derived.fortran = derived'.fortran :=
  CacheEntry.switch_inj.1 (Option.some.inj (h .useFortran))

/-- The limit on dimensions is read off its entry, since no two numbers share a
numeral. -/
theorem maxDims_eq_of_entries : derived.maxDims = derived'.maxDims := by
  have htext := CacheEntry.plain_inj.1 (Option.some.inj (h .maxDim))
  exact Text.Numeral.write_inj.1 htext

/-- The limit on fields is read off its entry in the same way. -/
theorem maxFields_eq_of_entries : derived.maxFields = derived'.maxFields := by
  have htext := CacheEntry.plain_inj.1 (Option.some.inj (h .maxFields))
  exact UInt64.toNat_inj.1 (Text.Numeral.ofNat_inj.1 htext)

/-- **The entries determine which variants are on**, for each variant that has
a name of its own. -/
theorem enabled_eq_of_entries {pair : CacheName × String} (hpair : pair ∈ switches ++ marks) :
    values.enabled pair.2 = values'.enabled pair.2 := by
  have hentry := h pair.1
  rcases List.mem_append.1 hpair with hswitch | hmark
  · rw [entryOf?_switch pair hswitch, entryOf?_switch pair hswitch] at hentry
    exact CacheEntry.switch_inj.1 (Option.some.inj hentry)
  · rw [← isSome_entryOf?_mark pair hmark, ← isSome_entryOf?_mark pair hmark, hentry]

/-- Whether Kokkos is built is read off its entry, its compiler is not. -/
theorem kokkos_eq_of_entries : derived.kokkosCxx.isSome = derived'.kokkosCxx.isSome := by
  have hentry := h .useKokkos
  unfold entryOf? at hentry
  cases hfirst : derived.kokkosCxx.isSome <;> cases hsecond : derived'.kokkosCxx.isSome <;>
    simp_all

/-- **Where CUDA is on the entries determine its settings.** -/
theorem cuda_eq_of_entries (hcuda : values.enabled "cuda" = true)
    (hcuda' : values'.enabled "cuda" = true) :
    (values.text? "cuda_arch").getD "" = (values'.text? "cuda_arch").getD ""
      ∧ values.enabled "cuda_hijack" = values'.enabled "cuda_hijack"
      ∧ values.enabled "cuda_unsupported_compiler"
        = values'.enabled "cuda_unsupported_compiler" := by
  have harch := h .cudaArch
  have hhijack := h .hijackCudart
  have hflags := h .nvccFlags
  unfold entryOf? at harch hhijack hflags
  rw [hcuda, hcuda'] at harch hhijack hflags
  refine ⟨CacheEntry.plain_inj.1 (Option.some.inj harch),
    CacheEntry.switch_inj.1 (Option.some.inj hhijack), ?_⟩
  cases hfirst : values.enabled "cuda_unsupported_compiler" <;>
    cases hsecond : values'.enabled "cuda_unsupported_compiler" <;> simp_all

end Entries

namespace Legion

/-! ## What the flags of Legion determine -/

/-- **Specs that come to the same flags are built alike.** They agree on the
transport layer with its place, conduit and debugging, on the logging level, on
complex reductions and Fortran as they take effect, on both limits, on every
feature that is on or off, and on the settings of CUDA where it is on. -/
theorem flags_determine_configuration {files files' : Files} {spec spec' : Spec}
    {plan plan' : BuildPlan} (hplan : package.planner.plan files spec = .ok plan)
    (hplan' : package.planner.plan files' spec' = .ok plan') (hflags : plan.flags = plan'.flags) :
    plan.derived.transport = plan'.derived.transport
      ∧ plan.derived.outputLevel = plan'.derived.outputLevel
      ∧ plan.derived.redopComplex = plan'.derived.redopComplex
      ∧ plan.derived.fortran = plan'.derived.fortran
      ∧ plan.derived.maxDims = plan'.derived.maxDims
      ∧ plan.derived.maxFields = plan'.derived.maxFields
      ∧ ∃ values values', schema.bind spec.variants = .ok values
        ∧ schema.bind spec'.variants = .ok values'
        ∧ (∀ name ∈ ["shared", "bounds_checks", "privilege_checks", "enable_tls", "spy", "hdf5",
              "hwloc", "kokkos", "libdl", "openmp", "papi", "python", "zlib", "bindings",
              "native", "cuda"],
            values.get? name = values'.get? name)
        ∧ (values.get? "cuda" = some (.bool true) →
            ∀ name ∈ ["cuda_arch", "cuda_hijack", "cuda_unsupported_compiler"],
              values.get? name = values'.get? name) := by
  obtain ⟨values, derived, hcleared, hderived, rfl⟩ := Planner.plan_eq_ok_iff.1 hplan
  obtain ⟨values', derived', hcleared', hderived', rfl⟩ := Planner.plan_eq_ok_iff.1 hplan'
  have h := hcleared.completes
  have h' := hcleared'.completes
  have hentries := entryOf?_eq_of_flagsOf_eq hflags
  refine ⟨transport_eq_of_entries hentries, outputLevel_eq_of_entries hentries,
    redopComplex_eq_of_entries hentries, fortran_eq_of_entries hentries,
    maxDims_eq_of_entries hentries, maxFields_eq_of_entries hentries,
    values, values', Schema.bind_eq_ok_iff.2 h, Schema.bind_eq_ok_iff.2 h', ?_, ?_⟩
  · intro name hname
    have hkokkos : values.enabled "kokkos" = values'.enabled "kokkos" := by
      rw [← (Derived.eq_of_ofResolved hderived).2.1, ← (Derived.eq_of_ofResolved hderived').2.1]
      exact kokkos_eq_of_entries hentries
    -- but for Kokkos, each of the variants has a cache name of its own
    have hown : ∀ name ∈ ["shared", "bounds_checks", "privilege_checks", "enable_tls", "spy",
        "hdf5", "hwloc", "kokkos", "libdl", "openmp", "papi", "python", "zlib", "bindings",
        "native", "cuda"],
        name ∈ toggles ∧ (name = "kokkos" ∨ ∃ pair ∈ switches ++ marks, pair.2 = name) := by
      decide
    obtain ⟨htoggle, hcache⟩ := hown name hname
    rw [get?_toggle h htoggle, get?_toggle h' htoggle]
    rcases hcache with rfl | ⟨pair, hpair, rfl⟩
    · rw [hkokkos]
    · rw [enabled_eq_of_entries hentries hpair]
  · intro hcuda
    have hon : values.enabled "cuda" = true := by
      unfold Values.enabled
      rw [hcuda]
    have hmark : (CacheName.useCuda, "cuda") ∈ switches ++ marks := by decide
    have hon' : values'.enabled "cuda" = true := by
      rw [← enabled_eq_of_entries hentries hmark]
      exact hon
    obtain ⟨harch, hhijack, hunsupported⟩ := cuda_eq_of_entries hentries hon hon'
    obtain ⟨arch, _, hget⟩ := exists_name h (show schema.find? "cuda_arch" = _ from rfl)
    obtain ⟨arch', _, hget'⟩ := exists_name h' (show schema.find? "cuda_arch" = _ from rfl)
    unfold Values.text? at harch
    rw [hget, hget'] at harch
    have hsame : arch = arch' := harch
    simp only [List.forall_mem_cons, List.not_mem_nil, IsEmpty.forall_iff, implies_true, and_true]
    refine ⟨?_, ?_, ?_⟩
    · rw [hget, hget', hsame]
    · rw [get?_toggle h (by decide), get?_toggle h' (by decide), hhijack]
    · rw [get?_toggle h (by decide), get?_toggle h' (by decide), hunsupported]

/-- A place whose path looks like an argument. -/
def oddRoot : String := "/opt/gasnet:1=-DLegion_USE_CUDA=ON"

/-- The files in which that place is a directory. -/
def oddFiles : Files := .ofList [(oddRoot, .ok .directory)]

/-- GASNet at that place, with bindings and the limit on fields in full. -/
def boundGasnet : Spec :=
  { Spec.default with variants := .ofList [("network", .text "gasnet"), ("conduit", .text "ibv"),
      ("gasnet_root", .text oddRoot), ("bindings", .bool true), ("fortran", .bool true),
      ("max_fields", .int 512)] }

/-- The same with what bindings override left out, and fewer fields. -/
def looseGasnet : Spec :=
  { Spec.default with variants := .ofList [("network", .text "gasnet"), ("conduit", .text "ibv"),
      ("gasnet_root", .text oddRoot), ("bindings", .text "on"), ("max_fields", .int 300)] }

/-- Two specs with the same flags, which differ in what bindings and rounding
hide, have the same transport layer and the same limit. -/
theorem flags_boundGasnet :
    ∃ plan plan', package.planner.plan oddFiles boundGasnet = .ok plan
      ∧ package.planner.plan oddFiles looseGasnet = .ok plan'
      ∧ plan.flags = plan'.flags
      ∧ plan.derived.transport = plan'.derived.transport
      ∧ plan.derived.fortran = plan'.derived.fortran
      ∧ plan.derived.maxFields = plan'.derived.maxFields := by
  obtain ⟨plan, hplan⟩ : ∃ plan, package.planner.plan oddFiles boundGasnet = .ok plan :=
    exists_ok_of_isOk (by decide +kernel)
  obtain ⟨plan', hplan'⟩ : ∃ plan, package.planner.plan oddFiles looseGasnet = .ok plan :=
    exists_ok_of_isOk (by decide +kernel)
  have hflags : plan.flags = plan'.flags := by
    have hsame : (package.planner.plan oddFiles boundGasnet).toOption.map (·.flags)
        = (package.planner.plan oddFiles looseGasnet).toOption.map (·.flags) := by
      decide +kernel
    rw [hplan, hplan'] at hsame
    exact Option.some.inj hsame
  obtain ⟨htransport, _, _, hfortran, _, hfields, _⟩ :=
    flags_determine_configuration hplan hplan' hflags
  exact ⟨plan, plan', hplan, hplan', hflags, htransport, hfortran, hfields⟩

end Legion

end BuildVariants
