import BuildVariants.CacheEntry
import BuildVariants.CacheName
import BuildVariants.Derived

/-!
# Build plans

A build plan is what a build request comes to: the arguments of `cmake`,
further C++ flags, the environment variables to set before configuring, the
other packages that are needed, and the derived values that all this rests on.

The flags are written in blocks, one after the other: the transport layer in one of
three shapes, what is always set, and between these what is set for some builds only,
such as CUDA.
-/

namespace BuildVariants

/-! ## Flags -/

/-- The entries of the transport layer. -/
def Transport.entries : Transport → List CacheEntry
  | gasnet source conduit debug =>
    [.plain CacheName.networks.text "gasnetex",
      match source with
      | .external root => .plain CacheName.gasnetRoot.text root
      | .embedded => .switch CacheName.embedGasnet.text true,
      .plain CacheName.gasnetConduit.text conduit]
    ++ if debug then [.plain CacheName.gasnetConfigureArgs.text "--enable-debug"] else []
  | mpi => [.plain CacheName.networks.text "mpi"]
  | none => [.switch CacheName.embedGasnet.text false]

/-- The entry that is on if a variant is. -/
def CacheName.entry (name : CacheName) (values : Values) (variant : String) : CacheEntry :=
  .switch name.text (values.enabled variant)

/-- The entries of CUDA, if it is on. -/
def cudaEntries (values : Values) : List CacheEntry :=
  if values.enabled "cuda" then
    [.switch CacheName.useCuda.text true,
      .switch CacheName.gpuReductions.text true,
      .plain CacheName.cudaArch.text ((values.text? "cuda_arch").getD ""),
      CacheName.hijackCudart.entry values "cuda_hijack"]
    ++ if values.enabled "cuda_unsupported_compiler" then
        [.typed CacheName.nvccFlags.text "--allow-unsupported-compiler"]
      else []
  else []

/-- The entries of a build, in the order in which they are set. -/
def entriesOf (values : Values) (derived : Derived) : List CacheEntry :=
  derived.transport.entries
    ++ [CacheName.sharedLibs.entry values "shared",
      CacheName.boundsChecks.entry values "bounds_checks",
      CacheName.privilegeChecks.entry values "privilege_checks",
      CacheName.enableTls.entry values "enable_tls",
      .plain CacheName.outputLevel.text derived.outputLevel,
      CacheName.spy.entry values "spy"]
    ++ cudaEntries values
    ++ [.switch CacheName.useFortran.text derived.fortran,
      CacheName.useHdf5.entry values "hdf5",
      CacheName.useHwloc.entry values "hwloc"]
    ++ (if derived.kokkosCxx.isSome then [.switch CacheName.useKokkos.text true] else [])
    ++ [CacheName.useLibdl.entry values "libdl",
      CacheName.useOpenmp.entry values "openmp",
      CacheName.usePapi.entry values "papi",
      CacheName.usePython.entry values "python",
      CacheName.useZlib.entry values "zlib",
      .switch CacheName.redopComplex.text derived.redopComplex]
    ++ (if values.enabled "bindings" then [.switch CacheName.buildBindings.text true] else [])
    ++ [.plain CacheName.maxDim.text (Text.Numeral.write derived.maxDims),
      .plain CacheName.maxFields.text (Text.Numeral.ofNat derived.maxFields.toNat)]
    ++ if values.enabled "native" then [.typed CacheName.buildMarch.text "native"] else []

/-- The arguments of `cmake`. -/
def flagsOf (values : Values) (derived : Derived) : List String :=
  (entriesOf values derived).map (·.render)

/-- The C++ flags that a debug build asks for. They are reported beside the
arguments of `cmake` and are not among them. -/
def debugCxxFlags : List String := ["-DDEBUG_REALM", "-DDEBUG_LEGION", "-ggdb"]

/-- The variable from which Legion reads the C++ compiler of Kokkos. -/
def kokkosVariable : String := "KOKKOS_CXX_COMPILER"

/-- **What a build request comes to.** -/
structure BuildPlan where
  /-- The arguments of `cmake`. -/
  flags : List String
  /-- Further C++ flags, of a debug build. -/
  cxxFlags : List String
  /-- The environment variables to set before configuring. -/
  env : NameMap String
  /-- The other packages that are needed. -/
  dependencies : List Dependency
  derived : Derived
deriving DecidableEq

/-- Put together what a resolved spec comes to. -/
def BuildPlan.of (resolved : ResolvedSpec) (derived : Derived)
    (dependencies : List Dependency) : BuildPlan :=
  { flags := flagsOf resolved.values derived
    cxxFlags := if resolved.spec.buildType = .debug then debugCxxFlags else []
    env := match derived.kokkosCxx with
      | some cxx => NameMap.empty.insert kokkosVariable cxx
      | none => .empty
    dependencies
    derived }

/-! ## As data -/

/-- A plan as data. -/
def BuildPlan.toData (plan : BuildPlan) : Data :=
  .map [("flags", .ofTexts plan.flags),
    ("cxx_flags", .ofTexts plan.cxxFlags),
    ("env", .map (plan.env.map fun _ value => Data.text value).entries),
    ("dependencies", .list (plan.dependencies.map (·.toData))),
    ("derived", plan.derived.toData)]

end BuildVariants
