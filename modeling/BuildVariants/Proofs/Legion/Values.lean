import BuildVariants.Legion
import BuildVariants.Proofs.Schema

/-!
# The values of a Legion build

Every variant of Legion has a value, and it is of the kind that is asked for:
the defaults lie in their domains, and so does whatever is assigned.
-/

namespace BuildVariants.Legion

/-- **Every default of Legion lies in its domain.** -/
theorem schema_defaultsAdmitted : schema.DefaultsAdmitted := by
  unfold Schema.DefaultsAdmitted
  decide

section Values

variable {assignments : NameMap SuppliedValue} {values : Values}

/-- Every declared name has a value in its domain. -/
theorem exists_admitted (h : schema.Completes assignments values) {name : String}
    {variant : Variant} (hfind : schema.find? name = some variant) :
    ∃ value, values.get? name = some value ∧ variant.domain.Admits variant.multiple value :=
  h.admits schema_defaultsAdmitted (Schema.find?_eq_some_iff.1 hfind)

/-- A toggle of the schema has a truth value. -/
theorem exists_bool (h : schema.Completes assignments values) {name description : String}
    {default : Bool} (hfind : schema.find? name = some (.toggle name default description)) :
    ∃ b, values.get? name = some (.bool b) := by
  obtain ⟨value, hget, hadmits⟩ := exists_admitted h hfind
  obtain ⟨b, rfl⟩ := Domain.exists_bool_of_admits hadmits
  exact ⟨b, hget⟩

/-- A choice of the schema has one of its names for its value. -/
theorem exists_name (h : schema.Completes assignments values)
    {name default description : String} {names : List String}
    (hfind : schema.find? name = some (.choice name names default description)) :
    ∃ text ∈ names, values.get? name = some (.text text) := by
  obtain ⟨value, hget, hadmits⟩ := exists_admitted h hfind
  obtain ⟨text, hmem, rfl⟩ := Domain.exists_text_of_admits_choice hadmits
  exact ⟨text, hmem, hget⟩

/-- A checked variant of the schema has a text for its value. -/
theorem exists_path (h : schema.Completes assignments values)
    {name default description : String} {validator : Validator}
    (hfind : schema.find? name = some (.checked name validator default description)) :
    ∃ text, values.get? name = some (.text text) := by
  obtain ⟨value, hget, hadmits⟩ := exists_admitted h hfind
  obtain ⟨text, rfl⟩ := Domain.exists_text_of_admits_checked hadmits
  exact ⟨text, hget⟩

/-- An integer variant of the schema has an integer for its value. -/
theorem exists_integer (h : schema.Completes assignments values) {name description : String}
    {default : Int64} (hfind : schema.find? name = some (.integer name default description)) :
    ∃ n, values.get? name = some (.int n) := by
  obtain ⟨value, hget, hadmits⟩ := exists_admitted h hfind
  obtain ⟨n, rfl⟩ := Domain.exists_int_of_admits hadmits
  exact ⟨n, hget⟩

/-- The variants of Legion that are on or off. -/
def toggles : List String :=
  ["gasnet_debug", "shared", "bounds_checks", "privilege_checks", "enable_tls", "spy", "cuda",
    "cuda_hijack", "cuda_unsupported_compiler", "fortran", "hdf5", "hwloc", "kokkos", "bindings",
    "libdl", "openmp", "papi", "python", "zlib", "redop_complex", "native"]

/-- Each of these names is declared as a toggle. -/
theorem find?_toggles : ∀ name ∈ toggles, ∃ default description,
    schema.find? name = some (.toggle name default description) := by
  simp only [toggles, List.forall_mem_cons, List.not_mem_nil, IsEmpty.forall_iff, implies_true,
    and_true]
  and_intros <;> exact ⟨_, _, rfl⟩

/-- **A variant that is on or off is bound to whether it is on.** -/
theorem get?_toggle (h : schema.Completes assignments values) {name : String}
    (hname : name ∈ toggles) : values.get? name = some (.bool (values.enabled name)) := by
  obtain ⟨_, _, hfind⟩ := find?_toggles name hname
  obtain ⟨b, hget⟩ := exists_bool h hfind
  unfold Values.enabled
  rw [hget]

end Values

end BuildVariants.Legion
