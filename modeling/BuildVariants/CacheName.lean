/-!
# The cache names of Legion's build

The names that Legion's CMake files read.
-/

namespace BuildVariants

/-- A name in CMake's cache that Legion's build reads. -/
inductive CacheName
  | networks
  | gasnetRoot
  | embedGasnet
  | gasnetConduit
  | gasnetConfigureArgs
  | sharedLibs
  | boundsChecks
  | privilegeChecks
  | enableTls
  | outputLevel
  | spy
  | useCuda
  | gpuReductions
  | cudaArch
  | hijackCudart
  | nvccFlags
  | useFortran
  | useHdf5
  | useHwloc
  | useKokkos
  | useLibdl
  | useOpenmp
  | usePapi
  | usePython
  | useZlib
  | redopComplex
  | buildBindings
  | maxDim
  | maxFields
  | buildMarch
deriving DecidableEq, Repr

namespace CacheName

/-- The name as CMake knows it. -/
def text : CacheName → String
  | networks => "Legion_NETWORKS"
  | gasnetRoot => "GASNet_ROOT_DIR"
  | embedGasnet => "Legion_EMBED_GASNet"
  | gasnetConduit => "GASNet_CONDUIT"
  | gasnetConfigureArgs => "Legion_EMBED_GASNet_CONFIGURE_ARGS"
  | sharedLibs => "BUILD_SHARED_LIBS"
  | boundsChecks => "Legion_BOUNDS_CHECKS"
  | privilegeChecks => "Legion_PRIVILEGE_CHECKS"
  | enableTls => "Legion_ENABLE_TLS"
  | outputLevel => "Legion_OUTPUT_LEVEL"
  | spy => "Legion_SPY"
  | useCuda => "Legion_USE_CUDA"
  | gpuReductions => "Legion_GPU_REDUCTIONS"
  | cudaArch => "Legion_CUDA_ARCH"
  | hijackCudart => "Legion_HIJACK_CUDART"
  | nvccFlags => "CUDA_NVCC_FLAGS"
  | useFortran => "Legion_USE_Fortran"
  | useHdf5 => "Legion_USE_HDF5"
  | useHwloc => "Legion_USE_HWLOC"
  | useKokkos => "Legion_USE_Kokkos"
  | useLibdl => "Legion_USE_LIBDL"
  | useOpenmp => "Legion_USE_OpenMP"
  | usePapi => "Legion_USE_PAPI"
  | usePython => "Legion_USE_Python"
  | useZlib => "Legion_USE_ZLIB"
  | redopComplex => "Legion_REDOP_COMPLEX"
  | buildBindings => "Legion_BUILD_BINDINGS"
  | maxDim => "Legion_MAX_DIM"
  | maxFields => "Legion_MAX_FIELDS"
  | buildMarch => "BUILD_MARCH"

end CacheName

end BuildVariants
