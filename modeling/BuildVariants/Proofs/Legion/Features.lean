import BuildVariants.Proofs.Flags
import BuildVariants.Proofs.Legion.Clash
import BuildVariants.Proofs.Legion.Kokkos

/-!
# Features, by their flags and by their dependencies

A feature of Legion is described twice: by the entry that turns it on, and by
the rows that say what it needs. Neither is made from the other, and they agree
(`dependencies_match_flags`).

For most features both ask for the same variant. The transport layer is another
matter: MPI is needed by a conduit as well as by a network, and UCX by a conduit
alone, while no flag is made for a conduit without GASNet. What brings the two
together is the gate, which does not let such a conduit through
(`network_of_conduit`). On CUDA and Kokkos the two do part: CUDA is reported for
one variant more than turns it on, and Kokkos is not reported for every build
that has it on.
-/

namespace BuildVariants

/-! ## Reported packages -/

/-- **A package is reported**: it is among the dependencies. -/
def Dependency.Reported (dependencies : List Dependency) (name : String) : Prop :=
  ∃ dependency ∈ dependencies, dependency.name = name

namespace DependencyRow

/-- The conditions under which a package is needed. -/
def conditionsOf (rows : List DependencyRow) (name : String) : List Condition :=
  (rows.filter (·.dependency.name = name)).map (·.condition)

variable {rows : List DependencyRow} {resolved : ResolvedSpec}

/-- **A package is reported exactly if one of its conditions holds.** -/
theorem reported_active_iff {name : String} :
    Dependency.Reported (active rows resolved) name
      ↔ ∃ condition ∈ conditionsOf rows name, condition.holds resolved = true := by
  unfold Dependency.Reported conditionsOf
  constructor
  · rintro ⟨_, hmem, hname⟩
    obtain ⟨row, hrow, hholds, rfl⟩ := mem_active_iff.1 hmem
    have hkept : row ∈ rows.filter (·.dependency.name = name) :=
      List.mem_filter.2 ⟨hrow, decide_eq_true hname⟩
    exact ⟨row.condition, List.mem_map_of_mem hkept, hholds⟩
  · rintro ⟨_, hmem, hholds⟩
    obtain ⟨row, hkept, rfl⟩ := List.mem_map.1 hmem
    obtain ⟨hrow, hname⟩ := List.mem_filter.1 hkept
    exact ⟨row.dependency, mem_active_iff.2 ⟨row, hrow, hholds, rfl⟩, of_decide_eq_true hname⟩

/-- **The reported dependencies of some sort** come from the rows of that
sort. -/
theorem filter_active (p : Dependency → Bool) :
    (active rows resolved).filter p
      = active (rows.filter fun row => p row.dependency) resolved := by
  unfold active
  rw [List.filter_map, List.filter_filter, List.filter_filter]
  simp only [Function.comp_apply, Bool.and_comm]

end DependencyRow

namespace Legion

open Derived (textOrUnset ofValues)

variable {values : Values} {spec : Spec} {derived : Derived}

/-! ## Features with a variant of their own -/

/-- **The features that need a package each**, with the flag that turns them
on. -/
def features : List (String × String) :=
  [("hdf5", "-DLegion_USE_HDF5=ON"), ("hwloc", "-DLegion_USE_HWLOC=ON"),
    ("python", "-DLegion_USE_Python=ON"), ("papi", "-DLegion_USE_PAPI=ON"),
    ("zlib", "-DLegion_USE_ZLIB=ON")]

/-- Each feature has a switch of its own and one row of dependencies, on the variant
being on. -/
theorem features_declared : ∀ feature ∈ features, ∃ name : CacheName,
    (name, feature.1) ∈ switches ∧ (CacheEntry.switch name.text true).render = feature.2
      ∧ DependencyRow.conditionsOf dependencies feature.1 = [.enabled feature.1] := by
  simp only [features, List.forall_mem_cons, List.not_mem_nil, IsEmpty.forall_iff, implies_true,
    and_true]
  refine ⟨⟨.useHdf5, ?_, ?_, rfl⟩, ⟨.useHwloc, ?_, ?_, rfl⟩, ⟨.usePython, ?_, ?_, rfl⟩,
    ⟨.usePapi, ?_, ?_, rfl⟩, ⟨.useZlib, ?_, ?_, rfl⟩⟩ <;> decide

/-- **A feature is turned on exactly if its package is reported.** -/
theorem reported_feature_iff {feature : String × String} (hfeature : feature ∈ features) :
    Dependency.Reported (DependencyRow.active dependencies ⟨spec, values⟩) feature.1
      ↔ feature.2 ∈ flagsOf values derived := by
  obtain ⟨name, hswitch, hrender, hconditions⟩ := features_declared feature hfeature
  rw [DependencyRow.reported_active_iff, hconditions, ← hrender, switch_mem_flagsOf_iff,
    entryOf?_switch _ hswitch, Option.some.injEq, CacheEntry.switch_inj]
  simp only [List.mem_singleton, exists_eq_left]
  rfl

/-! ## The transport layer -/

section Transport

variable {network conduit : String} {cxx : Option String}

theorem textOrUnset_of_get? {name text : String} (hget : values.get? name = some (.text text)) :
    textOrUnset values name = text := by
  unfold textOrUnset Values.text?
  rw [hget]
  rfl

theorem holds_equals_text_iff {name text value : String}
    (hget : values.get? name = some (.text text)) :
    (Condition.equals name value).holds ⟨spec, values⟩ = true ↔ text = value := by
  rw [Condition.holds_equals_iff hget, hget, Option.some.injEq, Value.text.injEq]

/-- **Values without a clash have no conduit without GASNet.** -/
theorem network_of_conduit (hclash : ¬ Clash.conduit.Holds values)
    (hnetwork : values.get? "network" = some (.text network))
    (hconduit : values.get? "conduit" = some (.text conduit)) (hset : conduit ≠ "none") :
    network = "gasnet" := by
  by_contra hother
  refine hclash ⟨?_, ?_⟩
  · rw [hnetwork]
    simpa using hother
  · rw [hconduit]
    simpa using hset

/-- Networks are set under `gasnet` and `mpi`, whatever they are set to. -/
theorem networks_mem_flagsOf_iff (hnetwork : values.get? "network" = some (.text network)) :
    (∃ value, "-DLegion_NETWORKS=" ++ value ∈ flagsOf values (ofValues values cxx))
      ↔ network = "gasnet" ∨ network = "mpi" := by
  have hrender : ∀ value,
      "-DLegion_NETWORKS=" ++ value = (CacheEntry.plain CacheName.networks.text value).render :=
    fun value => congrArg (· ++ value)
      (by decide : "-DLegion_NETWORKS=" = "-D" ++ CacheName.networks.text ++ "=")
  simp only [hrender, plain_mem_flagsOf_iff, entryOf?_networks, textOrUnset_of_get? hnetwork]
  split_ifs with hgasnet hmpi <;> simp [*]

theorem ucx_mem_flagsOf_iff (hnetwork : values.get? "network" = some (.text network))
    (hconduit : values.get? "conduit" = some (.text conduit)) :
    "-DGASNet_CONDUIT=ucx" ∈ flagsOf values (ofValues values cxx)
      ↔ network = "gasnet" ∧ conduit = "ucx" := by
  have hrender :
      "-DGASNet_CONDUIT=ucx" = (CacheEntry.plain CacheName.gasnetConduit.text "ucx").render := by
    decide
  rw [hrender, plain_mem_flagsOf_iff, entryOf?_gasnetConduit, textOrUnset_of_get? hnetwork,
    textOrUnset_of_get? hconduit, Option.ite_none_right_eq_some, Option.some.injEq,
    CacheEntry.plain_inj]

/-- **MPI is reported exactly if there is a network.** -/
theorem reported_mpi_iff (hclash : ¬ Clash.conduit.Holds values)
    (hnetwork : values.get? "network" = some (.text network))
    (hconduit : values.get? "conduit" = some (.text conduit)) :
    Dependency.Reported (DependencyRow.active dependencies ⟨spec, values⟩) "mpi"
      ↔ network = "gasnet" ∨ network = "mpi" := by
  have hconditions : DependencyRow.conditionsOf dependencies "mpi"
      = [.equals "network" "mpi", .equals "network" "gasnet", .equals "conduit" "mpi"] := rfl
  rw [DependencyRow.reported_active_iff, hconditions]
  simp only [List.mem_cons, List.not_mem_nil, or_false, exists_eq_or_imp, exists_eq_left,
    holds_equals_text_iff hnetwork, holds_equals_text_iff hconduit]
  constructor
  · rintro (hmpi | hgasnet | hmpi)
    · exact .inr hmpi
    · exact .inl hgasnet
    · refine .inl (network_of_conduit hclash hnetwork hconduit ?_)
      rw [hmpi]
      decide
  · rintro (hgasnet | hmpi)
    · exact .inr (.inl hgasnet)
    · exact .inl hmpi

/-- **UCX is reported exactly if it is the conduit of GASNet.** -/
theorem reported_ucx_iff (hclash : ¬ Clash.conduit.Holds values)
    (hnetwork : values.get? "network" = some (.text network))
    (hconduit : values.get? "conduit" = some (.text conduit)) :
    Dependency.Reported (DependencyRow.active dependencies ⟨spec, values⟩) "ucx"
      ↔ network = "gasnet" ∧ conduit = "ucx" := by
  have hconditions :
      DependencyRow.conditionsOf dependencies "ucx" = [.equals "conduit" "ucx"] := rfl
  rw [DependencyRow.reported_active_iff, hconditions]
  simp only [List.mem_singleton, exists_eq_left, holds_equals_text_iff hconduit]
  refine ⟨fun hucx => ⟨network_of_conduit hclash hnetwork hconduit ?_, hucx⟩, And.right⟩
  rw [hucx]
  decide

end Transport

/-! ## CUDA and Kokkos -/

/-- CUDA is turned on in the flags if the variant is on. -/
theorem useCuda_mem_flagsOf_iff :
    "-DLegion_USE_CUDA=ON" ∈ flagsOf values derived ↔ values.enabled "cuda" = true := by
  have hrender :
      "-DLegion_USE_CUDA=ON" = (CacheEntry.switch CacheName.useCuda.text true).render := by
    decide
  rw [hrender]
  exact switch_mem_flagsOf_iff_of_ite rfl

theorem useKokkos_mem_flagsOf_iff :
    "-DLegion_USE_Kokkos=ON" ∈ flagsOf values derived ↔ derived.kokkosCxx.isSome = true := by
  have hrender :
      "-DLegion_USE_Kokkos=ON" = (CacheEntry.switch CacheName.useKokkos.text true).render := by
    decide
  rw [hrender]
  exact switch_mem_flagsOf_iff_of_ite rfl

/-- **CUDA is reported exactly if it is on, or the check of its compiler is off.** -/
theorem reported_cuda_iff :
    Dependency.Reported (DependencyRow.active dependencies ⟨spec, values⟩) "cuda"
      ↔ values.enabled "cuda" = true ∨ values.enabled "cuda_unsupported_compiler" = true := by
  have hconditions : DependencyRow.conditionsOf dependencies "cuda"
      = [.enabled "cuda_unsupported_compiler", .enabled "cuda"] := rfl
  rw [DependencyRow.reported_active_iff, hconditions]
  simp only [List.mem_cons, List.not_mem_nil, or_false, exists_eq_or_imp, exists_eq_left]
  exact or_comm

/-- **Kokkos is reported only if it is on**: every row about it asks for
that. -/
theorem enabled_of_reported_kokkos
    (h : Dependency.Reported (DependencyRow.active dependencies ⟨spec, values⟩) "kokkos") :
    values.enabled "kokkos" = true := by
  obtain ⟨_, hmem, hname⟩ := h
  obtain ⟨row, hrow, hholds, rfl⟩ := DependencyRow.mem_active_iff.1 hmem
  have hasks : ∃ conditions, row.condition = .all conditions
      ∧ Condition.enabled "kokkos" ∈ conditions := by
    rcases mem_dependencies_kokkos_iff.1 ⟨hrow, hname⟩ with ⟨_, _, _, _, rfl⟩ | rfl | rfl
    · exact ⟨_, rfl, .tail _ (.head _)⟩
    · exact ⟨_, rfl, .head _⟩
    · exact ⟨_, rfl, .head _⟩
  obtain ⟨conditions, hall, hkokkos⟩ := hasks
  rw [hall] at hholds
  exact Condition.holds_all_iff.1 hholds _ hkokkos

/-! ## Flags and dependencies -/

/-- What is needed while building. -/
def cmake : Dependency := ((Dependency.package "cmake").within "3.16:").forBuilding

/-- **What is planned is free of clashes.** -/
theorem not_holds_of_plan {files : Files} {plan : BuildPlan}
    (hplan : package.planner.plan files spec = .ok plan)
    (h : schema.Completes spec.variants values) (clash : Clash) : ¬ clash.Holds values := by
  intro hclash
  obtain ⟨_, _, hcleared, _, _⟩ := Planner.plan_eq_ok_iff.1 hplan
  obtain ⟨first, hfirst⟩ := FirstIn.exists_iff.2 ⟨clash, clash.mem_order, hclash⟩
  have hconflict : package.planner.plan files spec = .error (.conflict first.conflict) :=
    (plan_eq_conflict_iff_clash (hcleared.listed _ rfl) h).2 ⟨first, hfirst, rfl⟩
  rw [hplan] at hconflict
  cases hconflict

/-- **The flags and the dependencies of a plan agree.** A feature with a
package of its own is turned on exactly if the package is reported; MPI is
reported exactly if networks are set, and UCX exactly if it is the conduit that
is set. CUDA is reported exactly if it is turned on or the check of its compiler
is off, Kokkos only if it is turned on. CMake is reported once, and nothing else
is needed for building only. -/
theorem dependencies_match_flags {files : Files} {spec : Spec} {plan : BuildPlan}
    (hplan : package.planner.plan files spec = .ok plan) :
    (∀ feature ∈ features,
        Dependency.Reported plan.dependencies feature.1 ↔ feature.2 ∈ plan.flags)
      ∧ (Dependency.Reported plan.dependencies "mpi"
        ↔ ∃ value, "-DLegion_NETWORKS=" ++ value ∈ plan.flags)
      ∧ (Dependency.Reported plan.dependencies "ucx" ↔ "-DGASNet_CONDUIT=ucx" ∈ plan.flags)
      ∧ (∃ values, schema.bind spec.variants = .ok values
        ∧ (Dependency.Reported plan.dependencies "cuda"
          ↔ "-DLegion_USE_CUDA=ON" ∈ plan.flags
            ∨ values.get? "cuda_unsupported_compiler" = some (.bool true)))
      ∧ (Dependency.Reported plan.dependencies "kokkos" →
        "-DLegion_USE_Kokkos=ON" ∈ plan.flags)
      ∧ plan.dependencies.filter (·.name = "cmake") = [cmake]
      ∧ plan.dependencies.filter (·.kind = .build) = [cmake] := by
  obtain ⟨values, derived, hcleared, hderived, rfl⟩ := Planner.plan_eq_ok_iff.1 hplan
  have h := hcleared.completes
  have hclash := not_holds_of_plan hplan h .conduit
  obtain ⟨heq, hkokkos, _⟩ := Derived.eq_of_ofResolved hderived
  obtain ⟨network, _, hnetwork⟩ := exists_name h (show schema.find? "network" = _ from rfl)
  obtain ⟨conduit, _, hconduit⟩ := exists_name h (show schema.find? "conduit" = _ from rfl)
  refine ⟨fun feature hfeature => reported_feature_iff hfeature, ?_, ?_,
    ⟨values, Schema.bind_eq_ok_iff.2 h, ?_⟩, ?_, ?_, ?_⟩
  · show _ ↔ ∃ value, _ ∈ flagsOf values derived
    rw [heq, networks_mem_flagsOf_iff hnetwork]
    exact reported_mpi_iff hclash hnetwork hconduit
  · show _ ↔ _ ∈ flagsOf values derived
    rw [heq, ucx_mem_flagsOf_iff hnetwork hconduit]
    exact reported_ucx_iff hclash hnetwork hconduit
  · show _ ↔ _ ∈ flagsOf values derived ∨ _
    rw [useCuda_mem_flagsOf_iff, get?_toggle h (by decide), Option.some.injEq, Value.bool.injEq]
    exact reported_cuda_iff
  · intro hreported
    refine useKokkos_mem_flagsOf_iff.2 ?_
    rw [hkokkos]
    exact enabled_of_reported_kokkos hreported
  · exact DependencyRow.filter_active _
  · exact DependencyRow.filter_active _

/-- UCX under GASNet, with CUDA off and the check of its compiler off as well. -/
def ucxWithoutCuda : Spec :=
  { Spec.default with variants := .ofList [("network", .text "gasnet"), ("conduit", .text "ucx"),
      ("zlib", .bool false), ("cuda_unsupported_compiler", .bool true)] }

/-- The flags tell of UCX and not of zlib, and so do the dependencies. -/
theorem dependencies_ucxWithoutCuda :
    ∃ plan, package.planner.plan (.ofList []) ucxWithoutCuda = .ok plan
      ∧ Dependency.Reported plan.dependencies "ucx"
      ∧ ¬ Dependency.Reported plan.dependencies "zlib"
      ∧ Dependency.Reported plan.dependencies "mpi" := by
  obtain ⟨plan, hplan⟩ : ∃ plan, package.planner.plan (.ofList []) ucxWithoutCuda = .ok plan :=
    exists_ok_of_isOk (by decide +kernel)
  obtain ⟨hfeatures, hmpi, hucx, _⟩ := dependencies_match_flags hplan
  have hflags : (package.planner.plan (.ofList []) ucxWithoutCuda).toOption.any (fun plan =>
      decide ("-DGASNet_CONDUIT=ucx" ∈ plan.flags ∧ "-DLegion_USE_ZLIB=ON" ∉ plan.flags
        ∧ "-DLegion_NETWORKS=" ++ "gasnetex" ∈ plan.flags)) = true := by
    decide +kernel
  rw [hplan] at hflags
  obtain ⟨hconduit, hzlib, hnetworks⟩ := of_decide_eq_true hflags
  refine ⟨plan, hplan, hucx.2 hconduit, fun hreported => hzlib ?_, hmpi.2 ⟨_, hnetworks⟩⟩
  exact (hfeatures ("zlib", "-DLegion_USE_ZLIB=ON") (by decide)).1 hreported

end Legion

end BuildVariants
