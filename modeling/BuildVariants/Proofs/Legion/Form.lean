import BuildVariants.Proofs.FieldLimit
import BuildVariants.Proofs.Legion.Features

/-!
# The form of Legion's flags

What is promised of the flags of a Legion build, whoever asks for it and in
whatever spelling: they start with one part about the transport layer, of three
shapes, and nothing is said of the transport layer behind it; the names of CUDA
are there only if CUDA is on; the logging level, the limits and Kokkos are as
declared (`Form`).

Deriving and emitting do not see to that. They would write an unset conduit, no
network at all, or an empty architecture, and fall back on a limit where none is
given. That they never do so comes from what stands before them: the values are
of the kinds that are declared, and the gate lets no clash through
(`form_of_plan`).
-/

namespace BuildVariants

/-! ## Names that are not set -/

/-- An untyped argument, by how it starts. -/
theorem CacheEntry.render_plain_eq {name head : String} (h : "-D" ++ name ++ "=" = head)
    (value : String) : (plain name value).render = head ++ value :=
  congrArg (· ++ value) h

section Flags

variable {values : Values} {derived : Derived}

/-- **No argument sets a name that has no entry.** -/
theorem sets_eq_false_of_entryOf?_eq_none {name : CacheName}
    (h : entryOf? values derived name = none) :
    ∀ argument ∈ flagsOf values derived, sets name argument = false := by
  have hfilter := filter_sets_flagsOf values derived name
  rw [h] at hfilter
  intro argument hmem
  exact Bool.eq_false_iff.2 (List.filter_eq_nil_iff.1 hfilter argument hmem)

/-- The arguments that set a name with an untyped entry. -/
theorem filter_sets_of_plain {name : CacheName} {head value : String}
    (h : entryOf? values derived name = some (.plain name.text value))
    (hhead : "-D" ++ name.text ++ "=" = head) :
    (flagsOf values derived).filter (sets name) = [head ++ value] := by
  rw [filter_sets_flagsOf, h, ← CacheEntry.render_plain_eq hhead]
  rfl

/-- The arguments of some names. -/
def argumentsOf (values : Values) (derived : Derived) (names : List CacheName) : List String :=
  (names.filterMap (entryOf? values derived)).map (·.render)

/-- The flags are the arguments of all names. -/
theorem flagsOf_eq_argumentsOf :
    flagsOf values derived = argumentsOf values derived CacheName.order := by
  rw [flagsOf, entriesOf_eq, argumentsOf]

/-- The arguments of names in two parts stand side by side. -/
theorem argumentsOf_append (first second : List CacheName) :
    argumentsOf values derived (first ++ second)
      = argumentsOf values derived first ++ argumentsOf values derived second := by
  rw [argumentsOf, argumentsOf, argumentsOf, ← List.map_append, ← List.filterMap_append]

/-- The arguments of some names set no other name. -/
theorem sets_eq_false_of_mem_argumentsOf {names : List CacheName} {name : CacheName}
    (h : name ∉ names) :
    ∀ argument ∈ argumentsOf values derived names, sets name argument = false := by
  intro argument hmem
  obtain ⟨entry, hentry, rfl⟩ := List.mem_map.1 hmem
  obtain ⟨other, hother, hsome⟩ := List.mem_filterMap.1 hentry
  rw [sets_render (name_of_entryOf? hsome)]
  refine decide_eq_false ?_
  rintro rfl
  exact h hother

end Flags

/-- **The flags start with those of the transport layer**, and none of the
others is about it. -/
theorem exists_flagsOf_eq_append (values : Values) (derived : Derived) :
    ∃ rest, flagsOf values derived = argumentsOf values derived CacheName.transport ++ rest
      ∧ ∀ argument ∈ rest, ∀ name ∈ CacheName.transport, sets name argument = false := by
  refine ⟨argumentsOf values derived (CacheName.order.drop 5), ?_, fun argument hmem name hname =>
    sets_eq_false_of_mem_argumentsOf ?_ argument hmem⟩
  · rw [← argumentsOf_append, flagsOf_eq_argumentsOf]
    rfl
  · revert name
    decide

namespace Legion

/-! ## The documented form -/

/-- The argument that says where GASNet comes from. -/
def sourceArgument (root : String) : String :=
  if root = "none" then "-DLegion_EMBED_GASNet=ON" else "-DGASNet_ROOT_DIR=" ++ root

/-- The argument that has GASNet built for debugging, if it is to be debugged. -/
def debugArguments (debug : Bool) : List String :=
  if debug then ["-DLegion_EMBED_GASNet_CONFIGURE_ARGS=--enable-debug"] else []

/-- **The logging levels**, each with its name in upper case. -/
def shownLevels : List (String × String) :=
  [("spew", "SPEW"), ("debug", "DEBUG"), ("info", "INFO"), ("print", "PRINT"),
    ("warning", "WARNING"), ("error", "ERROR"), ("fatal", "FATAL"), ("none", "NONE")]

/-- **What is said of the transport layer**, in one of three shapes. -/
inductive TransportPart (values : Values) : List String → Prop
  /-- GASNet: the network, where it comes from, its conduit, and its
  debugging. -/
  | gasnet {root conduit : String} {debug : Bool} :
      values.get? "network" = some (.text "gasnet") →
      values.get? "gasnet_root" = some (.text root) →
      values.get? "conduit" = some (.text conduit) →
      conduit ∈ ["aries", "ibv", "udp", "mpi", "ucx"] →
      values.get? "gasnet_debug" = some (.bool debug) →
      TransportPart values
        (["-DLegion_NETWORKS=gasnetex", sourceArgument root, "-DGASNet_CONDUIT=" ++ conduit]
          ++ debugArguments debug)
  /-- MPI, and nothing besides. -/
  | mpi : values.get? "network" = some (.text "mpi") →
      TransportPart values ["-DLegion_NETWORKS=mpi"]
  /-- No network: GASNet is not embedded. -/
  | none : values.get? "network" = some (.text "none") →
      TransportPart values ["-DLegion_EMBED_GASNet=OFF"]

/-- **The form of a plan's flags**, given the values that they are made
from. -/
structure Form (spec : Spec) (values : Values) (plan : BuildPlan) : Prop where
  /-- The transport layer comes first, and nothing is said of it later. -/
  transport : ∃ part rest, plan.flags = part ++ rest ∧ TransportPart values part
    ∧ ∀ argument ∈ rest, ∀ name ∈ CacheName.transport, sets name argument = false
  /-- The names of CUDA are absent where it is off. -/
  cudaOff : values.get? "cuda" ≠ some (.bool true) →
    ∀ argument ∈ plan.flags, ∀ name ∈ CacheName.cuda, sets name argument = false
  /-- Where CUDA is on, the architecture is a declared one. -/
  cudaOn : values.get? "cuda" = some (.bool true) →
    ∃ arch ∈ ["60", "70", "75", "80"], values.get? "cuda_arch" = some (.text arch)
      ∧ plan.flags.filter (sets .cudaArch) = ["-DLegion_CUDA_ARCH=" ++ arch]
  /-- The logging level is a declared one in upper case. -/
  outputLevel : ∃ level ∈ shownLevels, values.get? "output_level" = some (.text level.1)
    ∧ plan.flags.filter (sets .outputLevel) = ["-DLegion_OUTPUT_LEVEL=" ++ level.2]
  /-- The limit on dimensions is the resolved one in decimal. -/
  maxDim : ∃ limit, values.get? "max_dims" = some (.int limit)
    ∧ plan.flags.filter (sets .maxDim) = ["-DLegion_MAX_DIM=" ++ toString limit.toInt]
  /-- The limit on fields is the resolved one, rounded to a power of two, in decimal. -/
  maxFields : ∃ limit k, values.get? "max_fields" = some (.int limit)
    ∧ (FieldLimit.round limit).toNat = 2 ^ k
    ∧ plan.flags.filter (sets .maxFields) = ["-DLegion_MAX_FIELDS=" ++ toString (2 ^ k)]
  /-- What is read with something to fall back on is there, and of its kind. -/
  bound : (∀ name ∈ ["network", "gasnet_root", "conduit", "output_level", "cuda_arch"],
      ∃ text, values.get? name = some (.text text))
    ∧ ∀ name ∈ ["max_dims", "max_fields"], ∃ limit, values.get? name = some (.int limit)
  /-- Kokkos is turned on exactly if its compiler is in the environment. -/
  kokkos : "-DLegion_USE_Kokkos=ON" ∈ plan.flags
    ↔ ∃ cxx, plan.env.get? "KOKKOS_CXX_COMPILER" = some cxx
  /-- That compiler is the only variable, and the one that is known. -/
  compiler : ∀ cxx, plan.env.get? "KOKKOS_CXX_COMPILER" = some cxx →
    plan.env.entries = [("KOKKOS_CXX_COMPILER", cxx)]
      ∧ ∃ known, spec.dependencies.get? "kokkos" = some known ∧ known.cxx = some cxx

/-! ## Plans have it -/

section Transport

open Derived (textOrUnset ofValues)

variable {values : Values} {cxx : Option String} {network root conduit : String}

/-- The arguments of the transport layer, by what the values hold. -/
theorem argumentsOf_transport (hnetwork : values.get? "network" = some (.text network))
    (hroot : values.get? "gasnet_root" = some (.text root))
    (hconduit : values.get? "conduit" = some (.text conduit)) :
    argumentsOf values (ofValues values cxx) CacheName.transport
      = if network = "gasnet" then
          ["-DLegion_NETWORKS=gasnetex", sourceArgument root, "-DGASNet_CONDUIT=" ++ conduit]
            ++ debugArguments (values.enabled "gasnet_debug")
        else if network = "mpi" then ["-DLegion_NETWORKS=mpi"]
        else ["-DLegion_EMBED_GASNet=OFF"] := by
  have hnetworks (value : String) : (CacheEntry.plain CacheName.networks.text value).render
      = "-DLegion_NETWORKS=" ++ value := CacheEntry.render_plain_eq (by decide) value
  have hdirectory (value : String) : (CacheEntry.plain CacheName.gasnetRoot.text value).render
      = "-DGASNet_ROOT_DIR=" ++ value := CacheEntry.render_plain_eq (by decide) value
  have hembed (on : Bool) : (CacheEntry.switch CacheName.embedGasnet.text on).render
      = "-DLegion_EMBED_GASNet=" ++ if on then "ON" else "OFF" :=
    CacheEntry.render_plain_eq (by decide) _
  have hconduits (value : String) : (CacheEntry.plain CacheName.gasnetConduit.text value).render
      = "-DGASNet_CONDUIT=" ++ value := CacheEntry.render_plain_eq (by decide) value
  have hdebug (value : String) :
      (CacheEntry.plain CacheName.gasnetConfigureArgs.text value).render
        = "-DLegion_EMBED_GASNet_CONFIGURE_ARGS=" ++ value :=
    CacheEntry.render_plain_eq (by decide) value
  unfold argumentsOf CacheName.transport sourceArgument debugArguments
  simp only [List.filterMap_cons, List.filterMap_nil, entryOf?_networks, entryOf?_gasnetRoot,
    entryOf?_embedGasnet, entryOf?_gasnetConduit, entryOf?_gasnetConfigureArgs,
    textOrUnset_of_get? hnetwork, textOrUnset_of_get? hroot, textOrUnset_of_get? hconduit, unset]
  -- in each shape, the entries that are there make the arguments one by one
  by_cases hgasnet : network = "gasnet"
  · by_cases hnone : root = "none" <;> cases values.enabled "gasnet_debug" <;>
      simp [hgasnet, hnone, hnetworks, hdirectory, hembed, hconduits, hdebug]
  · by_cases hmpi : network = "mpi" <;> simp [hgasnet, hmpi, hnetworks, hembed]

/-- **What is said of the transport layer has one of the three shapes**, if GASNet
does not go without a conduit. -/
theorem transportPart_argumentsOf {assignments : NameMap SuppliedValue}
    (h : schema.Completes assignments values) (hclash : ¬ Clash.missingConduit.Holds values) :
    TransportPart values (argumentsOf values (ofValues values cxx) CacheName.transport) := by
  obtain ⟨network, hmem, hnetwork⟩ := exists_name h (show schema.find? "network" = _ from rfl)
  obtain ⟨root, hroot⟩ := exists_path h (show schema.find? "gasnet_root" = _ from rfl)
  obtain ⟨conduit, hdeclared, hconduit⟩ := exists_name h (show schema.find? "conduit" = _ from rfl)
  rw [argumentsOf_transport hnetwork hroot hconduit]
  have hnetworks : network = "gasnet" ∨ network = "mpi" ∨ network = "none" := by
    simpa [networks] using hmem
  rcases hnetworks with rfl | rfl | rfl
  · rw [if_pos rfl]
    have hset : conduit ≠ "none" := by
      rintro rfl
      exact hclash ⟨hnetwork, hconduit⟩
    have hlisted : conduit ∈ conduits :=
      (List.mem_append.1 hdeclared).resolve_right fun hnone => hset (List.mem_singleton.1 hnone)
    exact .gasnet hnetwork hroot hconduit hlisted (get?_toggle h (by decide))
  · exact .mpi hnetwork
  · exact .none hnetwork

end Transport

/-! ## The other entries -/

section Entries

open Derived (ofValues)

variable {values : Values} {derived : Derived} {cxx : Option String}

/-- Where CUDA is off its names have no entries. -/
theorem entryOf?_cuda_eq_none (h : values.enabled "cuda" = false) :
    ∀ name ∈ CacheName.cuda, entryOf? values derived name = none := by
  simp only [CacheName.cuda, List.forall_mem_cons, List.not_mem_nil, IsEmpty.forall_iff,
    implies_true, and_true]
  and_intros <;> simp [entryOf?, h]

theorem entryOf?_cudaArch {arch : String} (h : values.enabled "cuda" = true)
    (harch : values.get? "cuda_arch" = some (.text arch)) :
    entryOf? values derived .cudaArch = some (.plain CacheName.cudaArch.text arch) := by
  simp [entryOf?, h, Values.text?, harch]

theorem entryOf?_outputLevel {level : String}
    (h : values.get? "output_level" = some (.text level)) :
    entryOf? values (ofValues values cxx) .outputLevel
      = some (.plain CacheName.outputLevel.text (Text.upper level)) := by
  simp [entryOf?, ofValues, textOrUnset_of_get? h]

/-- A declared level is shown in upper case. -/
theorem exists_shownLevel {level : String} (h : level ∈ outputLevels) :
    ∃ shown ∈ shownLevels, shown.1 = level ∧ shown.2 = Text.upper level := by
  revert level
  decide +kernel

theorem entryOf?_maxDim {limit : Int64} (h : values.get? "max_dims" = some (.int limit)) :
    entryOf? values (ofValues values cxx) .maxDim
      = some (.plain CacheName.maxDim.text (toString limit.toInt)) := by
  simp [entryOf?, ofValues, Values.integer?, h, Text.Numeral.write_eq_toString]

theorem entryOf?_maxFields {limit : Int64} (h : values.get? "max_fields" = some (.int limit)) :
    entryOf? values (ofValues values cxx) .maxFields
      = some (.plain CacheName.maxFields.text (toString (FieldLimit.round limit).toNat)) := by
  simp [entryOf?, ofValues, Values.integer?, h, Text.Numeral.ofNat_eq_toString]

end Entries

/-! ## The environment -/

section Environment

variable {resolved : ResolvedSpec} {derived : Derived} {dependencies : List Dependency}

/-- The environment of a plan holds the compiler of Kokkos, if it is known. -/
theorem env_of : (BuildPlan.of resolved derived dependencies).env.entries
    = (derived.kokkosCxx.map fun cxx => ("KOKKOS_CXX_COMPILER", cxx)).toList := by
  unfold BuildPlan.of
  cases derived.kokkosCxx <;> rfl

theorem get?_env_of_iff {cxx : String} :
    (BuildPlan.of resolved derived dependencies).env.get? "KOKKOS_CXX_COMPILER" = some cxx
      ↔ derived.kokkosCxx = some cxx := by
  rw [← NameMap.mem_entries_iff, env_of]
  cases derived.kokkosCxx <;> simp [eq_comm]

end Environment

/-! ## Plans have the form -/

/-- **The flags of a plan have the documented form**, and no value that they are
made from is missing or of another kind: whatever the spec leaves open, and
however it spells what it says. -/
theorem form_of_plan {files : Files} {spec : Spec} {plan : BuildPlan}
    (hplan : package.planner.plan files spec = .ok plan) :
    ∃ values, schema.bind spec.variants = .ok values ∧ Form spec values plan := by
  obtain ⟨values, derived, hcleared, hderived, rfl⟩ := Planner.plan_eq_ok_iff.1 hplan
  have h := hcleared.completes
  obtain ⟨hvalues, hsome, hcxx⟩ := Derived.eq_of_ofResolved hderived
  have hcuda := get?_toggle h (show "cuda" ∈ toggles by decide)
  obtain ⟨network, _, hnetwork⟩ := exists_name h (show schema.find? "network" = _ from rfl)
  obtain ⟨root, hroot⟩ := exists_path h (show schema.find? "gasnet_root" = _ from rfl)
  obtain ⟨conduit, _, hconduit⟩ := exists_name h (show schema.find? "conduit" = _ from rfl)
  obtain ⟨level, hlevel, houtput⟩ := exists_name h (show schema.find? "output_level" = _ from rfl)
  obtain ⟨arch, hdeclared, harch⟩ := exists_name h (show schema.find? "cuda_arch" = _ from rfl)
  obtain ⟨dims, hdims⟩ := exists_integer h (show schema.find? "max_dims" = _ from rfl)
  obtain ⟨fields, hfields⟩ := exists_integer h (show schema.find? "max_fields" = _ from rfl)
  refine ⟨values, Schema.bind_eq_ok_iff.2 h,
    { transport := ?transport, cudaOff := ?cudaOff, cudaOn := ?cudaOn, outputLevel := ?outputLevel
      maxDim := ?maxDim, maxFields := ?maxFields, bound := ?bound, kokkos := ?kokkos
      compiler := ?compiler }⟩
  case transport =>
    obtain ⟨rest, hflags, hrest⟩ := exists_flagsOf_eq_append values derived
    refine ⟨_, rest, hflags, ?_, hrest⟩
    rw [hvalues]
    exact transportPart_argumentsOf h (not_holds_of_plan hplan h .missingConduit)
  case cudaOff =>
    intro hoff argument hmem name hname
    have hdisabled : values.enabled "cuda" = false := by
      rw [hcuda] at hoff
      simpa using hoff
    exact sets_eq_false_of_entryOf?_eq_none (entryOf?_cuda_eq_none hdisabled name hname)
      argument hmem
  case cudaOn =>
    intro hon
    have henabled : values.enabled "cuda" = true := by
      rw [hcuda] at hon
      simpa using hon
    exact ⟨arch, hdeclared, harch,
      filter_sets_of_plain (entryOf?_cudaArch henabled harch) (by decide)⟩
  case outputLevel =>
    obtain ⟨shown, hshown, rfl, hupper⟩ := exists_shownLevel hlevel
    refine ⟨shown, hshown, houtput, filter_sets_of_plain ?_ (by decide)⟩
    rw [hvalues, hupper]
    exact entryOf?_outputLevel houtput
  case maxDim =>
    refine ⟨dims, hdims, filter_sets_of_plain ?_ (by decide)⟩
    rw [hvalues]
    exact entryOf?_maxDim hdims
  case maxFields =>
    obtain ⟨k, hk⟩ := FieldLimit.exists_toNat_round fields
    refine ⟨fields, k, hfields, hk, filter_sets_of_plain ?_ (by decide)⟩
    rw [hvalues, ← hk]
    exact entryOf?_maxFields hfields
  case bound =>
    simp only [List.forall_mem_cons, List.not_mem_nil, IsEmpty.forall_iff, implies_true, and_true]
    exact ⟨⟨⟨_, hnetwork⟩, ⟨_, hroot⟩, ⟨_, hconduit⟩, ⟨_, houtput⟩, ⟨_, harch⟩⟩,
      ⟨_, hdims⟩, ⟨_, hfields⟩⟩
  case kokkos =>
    show _ ∈ flagsOf values derived ↔ _
    rw [useKokkos_mem_flagsOf_iff, Option.isSome_iff_exists]
    exact exists_congr fun _ => get?_env_of_iff.symm
  case compiler =>
    intro cxx hget
    have hknown := get?_env_of_iff.1 hget
    refine ⟨by rw [env_of, hknown]; rfl, ?_⟩
    rw [hknown] at hcxx
    have hbind : (spec.dependencies.get? "kokkos").bind (·.cxx) = some cxx := by
      split at hcxx
      · exact hcxx.symm
      · cases hcxx
    exact Option.bind_eq_some_iff.1 hbind

/-- A place whose path reads like an argument about CUDA. -/
def misleadingRoot : String := "/opt/-DLegion_USE_CUDA=ON"

/-- GASNet at that place, for debugging, with values in unusual spellings. -/
def spelledGasnet : Spec :=
  { Spec.default with variants := .ofList [("network", .text "gasnet"), ("conduit", .text "udp"),
      ("gasnet_root", .text misleadingRoot), ("gasnet_debug", .text "oN"),
      ("output_level", .text "spew"), ("max_fields", .text " +0300 ")] }

/-- Its flags have the form, and CUDA is not among them. -/
theorem form_spelledGasnet :
    ∃ values plan,
      package.planner.plan (.ofList [(misleadingRoot, .ok .directory)]) spelledGasnet = .ok plan
      ∧ schema.bind spelledGasnet.variants = .ok values
      ∧ Form spelledGasnet values plan
      ∧ plan.flags.take 4 = ["-DLegion_NETWORKS=gasnetex", "-DGASNet_ROOT_DIR=" ++ misleadingRoot,
          "-DGASNet_CONDUIT=udp", "-DLegion_EMBED_GASNet_CONFIGURE_ARGS=--enable-debug"]
      ∧ ∀ argument ∈ plan.flags, sets .useCuda argument = false := by
  obtain ⟨plan, hplan⟩ : ∃ plan,
      package.planner.plan (.ofList [(misleadingRoot, .ok .directory)]) spelledGasnet = .ok plan :=
    exists_ok_of_isOk (by decide +kernel)
  obtain ⟨values, hbind, hform⟩ := form_of_plan hplan
  have htake : (package.planner.plan (.ofList [(misleadingRoot, .ok .directory)])
        spelledGasnet).toOption.map (·.flags.take 4)
      = some ["-DLegion_NETWORKS=gasnetex", "-DGASNet_ROOT_DIR=" ++ misleadingRoot,
          "-DGASNet_CONDUIT=udp", "-DLegion_EMBED_GASNet_CONFIGURE_ARGS=--enable-debug"] := by
    decide +kernel
  rw [hplan] at htake
  have hcuda : values.get? "cuda" = some (.bool false) :=
    (Schema.bind_eq_ok_iff.1 hbind).defaulted "cuda" _ rfl (Schema.find?_eq_some_iff.1 rfl)
  have hoff : values.get? "cuda" ≠ some (.bool true) := by
    rw [hcuda]
    decide
  exact ⟨values, plan, hplan, hbind, hform, Option.some.inj htake,
    fun argument hmem => hform.cudaOff hoff argument hmem _ (by decide)⟩

end Legion

end BuildVariants
