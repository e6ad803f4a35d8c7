import BuildVariants.Package

/-!
# The Legion package

The versions, variants, conflict rules and dependencies of the Legion runtime.
-/

namespace BuildVariants.Legion

/-- The versions that can be built: a release and the branches that are
followed. -/
def versions : List String := ["21.03.0", "stable", "master", "cr"]

/-- The transport layers. -/
def networks : List String := ["gasnet", "mpi", "none"]

/-- The conduits of GASNet. -/
def conduits : List String := ["aries", "ibv", "udp", "mpi", "ucx"]

/-- The logging levels, from the most talkative on. -/
def outputLevels : List String :=
  ["spew", "debug", "info", "print", "warning", "error", "fatal", "none"]

/-- The GPU architectures. -/
def cudaArchitectures : List String := ["60", "70", "75", "80"]

/-- The release of Kokkos that goes with Legion. -/
def kokkosVersion : String := "3.3.01"

/-- The versions of CUDA that go with Legion. -/
def cudaVersions : String := "10.0:11.9"

/-- The variants of Legion. -/
def schema : Schema := ⟨[
  .choice "network" networks "none" "The network communications/transport layer to use.",
  .checked "gasnet_root" .directoryOrUnset unset
    "Path to a pre-installed version of GASNet (prefix directory).",
  .choice "conduit" (conduits ++ ["none"]) "none" "The gasnet conduit(s) to enable.",
  .toggle "gasnet_debug" false "Build gasnet with debugging enabled.",
  .toggle "shared" false "Build shared libraries.",
  .toggle "bounds_checks" false "Enable bounds checking in Legion accessors.",
  .toggle "privilege_checks" false "Enable runtime privilege checks in Legion accessors.",
  .toggle "enable_tls" false "Enable thread-local-storage of the Legion context.",
  .choice "output_level" outputLevels "warning" "Set the compile-time logging level.",
  .toggle "spy" false "Enable detailed logging for Legion Spy debugging.",
  .toggle "cuda" false "Enable CUDA support.",
  .toggle "cuda_hijack" false "Hijack application calls into the CUDA runtime (+cuda).",
  .choice "cuda_arch" cudaArchitectures "70" "GPU/CUDA architecture to build for.",
  .toggle "cuda_unsupported_compiler" false
    "Disable nvcc version check (--allow-unsupported-compiler).",
  .toggle "fortran" false "Enable Fortran bindings.",
  .toggle "hdf5" false "Enable support for HDF5.",
  .toggle "hwloc" false "Use hwloc for topology awareness.",
  .toggle "kokkos" false "Enable support for interoperability with Kokkos.",
  .toggle "bindings" false "Build runtime language bindings (excl. Fortran).",
  .toggle "libdl" true "Enable support for dynamic object/library loading.",
  .toggle "openmp" false "Enable support for OpenMP within Legion tasks.",
  .toggle "papi" false "Enable PAPI performance measurements.",
  .toggle "python" false "Enable Python support.",
  .toggle "zlib" true "Enable zlib support.",
  .toggle "redop_complex" false "Use reduction operators for complex types.",
  .integer "max_dims" 3 "Set max number of dimensions for logical regions.",
  .integer "max_fields" 512 "Maximum number of fields allowed in a logical region.",
  .toggle "native" false "Enable native/host processor optimization target."]⟩

/-! ## Rules -/

/-- The transport layer is not GASNet. -/
def withoutGasnet : Condition := .not (.equals "network" "gasnet")

/-- What does not go together. -/
def rules : List Rule := [
  { name := "gasnet-root-requires-gasnet"
    condition := .all [.isSet "gasnet_root", withoutGasnet]
    message := "'gasnet_root' is only valid when 'network=gasnet'." },
  { name := "gasnet-requires-conduit"
    condition := .all [.equals "conduit" "none", .equals "network" "gasnet"]
    message := "a conduit must be selected when 'network=gasnet'" },
  { name := "conduit-requires-gasnet"
    condition := .all [.not (.equals "conduit" "none"), withoutGasnet]
    message := "conduit attribute requires 'network=gasnet'." },
  { name := "gasnet-debug-requires-gasnet"
    condition := .all [.enabled "gasnet_debug", withoutGasnet]
    message := "'+gasnet_debug' requires 'network=gasnet'." },
  { name := "cuda-hijack-requires-cuda"
    condition := .all [.enabled "cuda_hijack", .disabled "cuda"]
    message := "'+cuda_hijack' requires '+cuda'." }]

/-! ## Dependencies -/

/-- The release of Kokkos that goes with Legion, as a dependency. -/
def kokkos : Dependency := (Dependency.package "kokkos").within kokkosVersion

/-- Kokkos for CUDA: GCC builds it through Kokkos' own wrapper of the CUDA
compiler, Clang compiles CUDA itself. -/
def kokkosForCuda (arch : String) : List DependencyRow :=
  [(CompilerFamily.gcc, Constraint.on "wrapper"), (.clang, .off "wrapper")].map
    fun (family, wrapper) =>
      { condition :=
          .all [.compiler family, .enabled "kokkos", .enabled "cuda", .equals "cuda_arch" arch]
        dependency :=
          kokkos.require (.on "cuda") |>.require (.on "cuda_lambda") |>.require wrapper
            |>.require (.value "cuda_arch" arch) }

/-- What other packages are needed, and when. -/
def dependencies : List DependencyRow :=
  [⟨.always, ((Dependency.package "cmake").within "3.16:").forBuilding⟩,
    ⟨.equals "network" "mpi", .package "mpi"⟩,
    ⟨.equals "network" "gasnet", .package "mpi"⟩,
    ⟨.equals "conduit" "ucx", .package "ucx"⟩,
    ⟨.equals "conduit" "mpi", .package "mpi"⟩,
    ⟨.enabled "cuda_unsupported_compiler", (Dependency.package "cuda").within cudaVersions⟩,
    ⟨.enabled "cuda", (Dependency.package "cuda").within cudaVersions⟩,
    ⟨.enabled "hdf5", .package "hdf5"⟩,
    ⟨.enabled "hwloc", .package "hwloc"⟩]
  ++ cudaArchitectures.flatMap kokkosForCuda
  ++ [⟨.all [.enabled "kokkos", .disabled "cuda"], kokkos.require (.off "cuda")⟩,
    ⟨.all [.enabled "kokkos", .enabled "openmp"],
      (kokkos.require (.off "cuda")).require (.on "openmp")⟩,
    ⟨.enabled "python", (Dependency.package "python").within "3"⟩,
    ⟨.enabled "papi", .package "papi"⟩,
    ⟨.enabled "zlib", .package "zlib"⟩]

/-- The Legion package. -/
def package : Package := ⟨versions, schema, rules, dependencies⟩

end BuildVariants.Legion
