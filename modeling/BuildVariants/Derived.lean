import BuildVariants.Dependency
import BuildVariants.FieldLimit
import BuildVariants.Text.Upper

/-!
# Derived values

Most values of a resolved spec are used as they are. The others are derived
here: the transport layer with its settings, the logging level in upper case,
the switches that bindings turn on, the limits, and the C++ compiler of Kokkos.
This is the one step of planning a build that can fail once the spec is
accepted, when Kokkos is on and its compiler is not known.
-/

namespace BuildVariants

/-- Where GASNet comes from when it is the transport layer. -/
inductive GasnetSource
  /-- It is built along with Legion. -/
  | embedded
  /-- It is installed at this place. -/
  | external (root : String)
deriving DecidableEq, Repr

/-- The transport layer of a build. -/
inductive Transport
  | gasnet (source : GasnetSource) (conduit : String) (debug : Bool)
  | mpi
  | none
deriving DecidableEq, Repr

/-- The values that are computed from a resolved spec. -/
structure Derived where
  transport : Transport
  /-- The logging level in upper case. -/
  outputLevel : String
  /-- Complex reductions, on by themselves or for bindings. -/
  redopComplex : Bool
  /-- Fortran, on by itself or for bindings. -/
  fortran : Bool
  maxDims : Int64
  maxFields : UInt64
  /-- The C++ compiler of Kokkos, if Kokkos is on. -/
  kokkosCxx : Option String
deriving DecidableEq, Repr

namespace Derived

/-- The text of a variant, or the text for an unset one. -/
def textOrUnset (values : Values) (name : String) : String := (values.text? name).getD unset

/-- The transport layer that the values select. -/
def transportOf (values : Values) : Transport :=
  let network := textOrUnset values "network"
  if network = "gasnet" then
    let root := textOrUnset values "gasnet_root"
    .gasnet (if root = unset then .embedded else .external root) (textOrUnset values "conduit")
      (values.enabled "gasnet_debug")
  else if network = "mpi" then .mpi
  else .none

/-- The C++ compiler of Kokkos, which must be known if Kokkos is on. -/
def kokkosCxxOf (resolved : ResolvedSpec) : Except ValidationError (Option String) :=
  if resolved.enabled "kokkos" then
    match (resolved.spec.dependencies.get? "kokkos").bind (·.cxx) with
    | some cxx => .ok (some cxx)
    | none =>
      .error (.unresolvedDependency "kokkos" "true" "kokkos" "a C++ compiler path (`cxx`)")
  else .ok none

/-- Everything derived from the values, given the compiler of Kokkos. -/
def ofValues (values : Values) (kokkosCxx : Option String) : Derived :=
  let bindings := values.enabled "bindings"
  { transport := transportOf values
    outputLevel := Text.upper (textOrUnset values "output_level")
    redopComplex := values.enabled "redop_complex" || bindings
    fortran := values.enabled "fortran" || bindings
    maxDims := (values.integer? "max_dims").getD 3
    maxFields := FieldLimit.round ((values.integer? "max_fields").getD 512)
    kokkosCxx }

/-- Derive what is computed from a resolved spec. -/
def ofResolved (resolved : ResolvedSpec) : Except ValidationError Derived :=
  (kokkosCxxOf resolved).map (ofValues resolved.values)

end Derived

/-! ## As data -/

/-- A transport layer as data. -/
def Transport.toData : Transport → Data
  | gasnet source conduit debug =>
    .map [("Gasnet", .map [
      ("source", match source with
        | .embedded => .text "Embedded"
        | .external root => .map [("External", .text root)]),
      ("conduit", .text conduit),
      ("debug", .bool debug)])]
  | mpi => .text "Mpi"
  | none => .text "None"

/-- Derived values as data. -/
def Derived.toData (derived : Derived) : Data :=
  .map [("transport", derived.transport.toData),
    ("output_level", .text derived.outputLevel),
    ("redop_complex", .bool derived.redopComplex),
    ("fortran", .bool derived.fortran),
    ("max_dims", .int derived.maxDims.toInt),
    ("max_fields", .int derived.maxFields.toNat),
    ("kokkos_cxx", .ofOption derived.kokkosCxx)]

end BuildVariants
