import BuildVariants.BuildPlan

/-!
# The entries of a build, name by name

The entries of a build are written in blocks, of which some are there for some builds
only. Yet there is one order of all the names, without repeats, that every build keeps
to: each name can be asked for its entry (`entryOf?`), and the entries that there are,
in this order, are the entries of the build (`entriesOf_eq`). So a name is set at most
once, and always in its place.
-/

namespace BuildVariants

namespace CacheName

/-- The names that speak of the transport layer, which are set first. -/
def transport : List CacheName :=
  [networks, gasnetRoot, embedGasnet, gasnetConduit, gasnetConfigureArgs]

/-- The names that speak of CUDA. -/
def cuda : List CacheName := [useCuda, gpuReductions, cudaArch, hijackCudart, nvccFlags]

/-- Every name, in the order in which a build sets them. -/
def order : List CacheName :=
  [networks, gasnetRoot, embedGasnet, gasnetConduit, gasnetConfigureArgs, sharedLibs,
    boundsChecks, privilegeChecks, enableTls, outputLevel, spy, useCuda, gpuReductions, cudaArch,
    hijackCudart, nvccFlags, useFortran, useHdf5, useHwloc, useKokkos, useLibdl, useOpenmp,
    usePapi, usePython, useZlib, redopComplex, buildBindings, maxDim, maxFields, buildMarch]

/-- The order leaves out no name. -/
theorem mem_order (name : CacheName) : name ∈ order := by cases name <;> decide

/-- The order names no name twice. -/
theorem nodup_order : order.Nodup := by decide

end CacheName

/-- The entry that a build gives a cache name, if it gives it one. -/
def entryOf? (values : Values) (derived : Derived) (name : CacheName) : Option CacheEntry :=
  let plain (value : String) := some (CacheEntry.plain name.text value)
  let typed (value : String) := some (CacheEntry.typed name.text value)
  let switch (on : Bool) := some (CacheEntry.switch name.text on)
  let cuda := values.enabled "cuda"
  match name with
  | .networks =>
    match derived.transport with
    | .gasnet .. => plain "gasnetex"
    | .mpi => plain "mpi"
    | .none => none
  | .gasnetRoot =>
    match derived.transport with
    | .gasnet (.external root) _ _ => plain root
    | _ => none
  | .embedGasnet =>
    match derived.transport with
    | .gasnet .embedded _ _ => switch true
    | .none => switch false
    | _ => none
  | .gasnetConduit =>
    match derived.transport with
    | .gasnet _ conduit _ => plain conduit
    | _ => none
  | .gasnetConfigureArgs =>
    match derived.transport with
    | .gasnet _ _ true => plain "--enable-debug"
    | _ => none
  | .sharedLibs => switch (values.enabled "shared")
  | .boundsChecks => switch (values.enabled "bounds_checks")
  | .privilegeChecks => switch (values.enabled "privilege_checks")
  | .enableTls => switch (values.enabled "enable_tls")
  | .outputLevel => plain derived.outputLevel
  | .spy => switch (values.enabled "spy")
  | .useCuda => if cuda then switch true else none
  | .gpuReductions => if cuda then switch true else none
  | .cudaArch => if cuda then plain ((values.text? "cuda_arch").getD "") else none
  | .hijackCudart => if cuda then switch (values.enabled "cuda_hijack") else none
  | .nvccFlags =>
    if cuda && values.enabled "cuda_unsupported_compiler" then
      typed "--allow-unsupported-compiler"
    else none
  | .useFortran => switch derived.fortran
  | .useHdf5 => switch (values.enabled "hdf5")
  | .useHwloc => switch (values.enabled "hwloc")
  | .useKokkos => if derived.kokkosCxx.isSome then switch true else none
  | .useLibdl => switch (values.enabled "libdl")
  | .useOpenmp => switch (values.enabled "openmp")
  | .usePapi => switch (values.enabled "papi")
  | .usePython => switch (values.enabled "python")
  | .useZlib => switch (values.enabled "zlib")
  | .redopComplex => switch derived.redopComplex
  | .buildBindings => if values.enabled "bindings" then switch true else none
  | .maxDim => plain (Text.Numeral.write derived.maxDims)
  | .maxFields => plain (Text.Numeral.ofNat derived.maxFields.toNat)
  | .buildMarch => if values.enabled "native" then typed "native" else none

variable (values : Values) (derived : Derived)

/-- The transport layer sets its names in their order. -/
theorem transport_entries_eq :
    derived.transport.entries = CacheName.transport.filterMap (entryOf? values derived) := by
  unfold CacheName.transport Transport.entries entryOf?
  cases derived.transport with
  | gasnet source conduit debug => cases source <;> cases debug <;> rfl
  | mpi => rfl
  | none => rfl

/-- CUDA sets its names in their order. -/
theorem cudaEntries_eq :
    cudaEntries values = CacheName.cuda.filterMap (entryOf? values derived) := by
  unfold CacheName.cuda cudaEntries entryOf?
  cases values.enabled "cuda" <;> cases values.enabled "cuda_unsupported_compiler" <;> rfl

variable {values derived} in
/-- A name with an entry on a condition is a block of its own. -/
theorem filterMap_singleton_of_ite {name : CacheName} {entry : CacheEntry} {condition : Bool}
    (h : entryOf? values derived name = if condition then some entry else none) :
    [name].filterMap (entryOf? values derived) = if condition then [entry] else [] := by
  cases condition with
  | true => exact List.filterMap_cons_some h
  | false => exact List.filterMap_cons_none h

/-- **The entries of a build are those of its names, in the one order.** -/
theorem entriesOf_eq :
    entriesOf values derived = CacheName.order.filterMap (entryOf? values derived) := by
  have hkokkos : entryOf? values derived .useKokkos = if derived.kokkosCxx.isSome then
      some (.switch CacheName.useKokkos.text true) else none := rfl
  have hbindings : entryOf? values derived .buildBindings = if values.enabled "bindings" then
      some (.switch CacheName.buildBindings.text true) else none := rfl
  have hnative : entryOf? values derived .buildMarch = if values.enabled "native" then
      some (.typed CacheName.buildMarch.text "native") else none := rfl
  have horder : CacheName.order
      = CacheName.transport ++ [.sharedLibs, .boundsChecks, .privilegeChecks, .enableTls,
          .outputLevel, .spy] ++ CacheName.cuda ++ [.useFortran, .useHdf5, .useHwloc]
        ++ [.useKokkos] ++ [.useLibdl, .useOpenmp, .usePapi, .usePython, .useZlib, .redopComplex]
        ++ [.buildBindings] ++ [.maxDim, .maxFields] ++ [.buildMarch] := rfl
  rw [entriesOf, transport_entries_eq values derived, cudaEntries_eq values derived,
    ← filterMap_singleton_of_ite hkokkos, ← filterMap_singleton_of_ite hbindings,
    ← filterMap_singleton_of_ite hnative, horder]
  simp only [List.filterMap_append]
  -- the blocks in between are always there: their names have entries as they stand
  rfl

end BuildVariants
