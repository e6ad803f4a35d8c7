import BuildVariants.BuildPlan
import BuildVariants.Proofs.Json.Reading

/-!
# What a printed plan shows

A plan is printed as JSON, and what another program takes from it are values under
names. Here it is said what is found there of the dependencies (`Dependency.ShownBy`),
without the functions that write them: under `dependencies` a list, and in it, for each
dependency in its place, the name, the range of versions or null, what is required of
its variants, and what it is needed for. What is printed can be read, and it shows the
dependencies of the plan (`BuildPlan.exists_shown`).
-/

namespace BuildVariants

open Data (Rearranged)

/-! ## What data shows -/

/-- **Data shows a constraint**: it has one entry, whose name says how its variant is
required to be. -/
inductive Constraint.ShownBy : Constraint → Data → Prop
  | on (variant : String) : ShownBy (.on variant) (.map [("On", .text variant)])
  | off (variant : String) : ShownBy (.off variant) (.map [("Off", .text variant)])
  | value (variant setting : String) :
    ShownBy (.value variant setting) (.map [("Value", .list [.text variant, .text setting])])

/-- **Data shows what a dependency is needed for.** -/
inductive DependencyKind.ShownBy : DependencyKind → Data → Prop
  | build : ShownBy .build (.text "build")
  | link : ShownBy .link (.text "link")

/-- **Data shows a dependency**, by what stands under four names. -/
structure Dependency.ShownBy (dependency : Dependency) (data : Data) : Prop where
  name : data.entry? [] "name" = some (.text dependency.name)
  versions : data.entry? [] "versions" = some (dependency.versions.elim .null .text)
  constraints : ∃ items, data.entry? [] "variants" = some (.list items)
    ∧ List.Forall₂ Constraint.ShownBy dependency.constraints items
  kind : ∃ kind, data.entry? [] "kind" = some kind ∧ dependency.kind.ShownBy kind

/-- The data of a constraint shows it, however it is arranged. -/
theorem Constraint.shownBy_of_rearranged {constraint : Constraint} {data : Data}
    (h : Rearranged constraint.toData data) : constraint.ShownBy data := by
  cases constraint with
  | on variant =>
    obtain ⟨found, rfl, hfound⟩ := h.exists_single
    rw [hfound.eq_text]
    exact .on variant
  | off variant =>
    obtain ⟨found, rfl, hfound⟩ := h.exists_single
    rw [hfound.eq_text]
    exact .off variant
  | value variant setting =>
    obtain ⟨found, rfl, hfound⟩ := h.exists_single
    rw [hfound.eq_ofTexts]
    exact .value variant setting

/-- Lists of data that come from values show these one by one. -/
theorem forall₂_shownBy {α : Type} {write : α → Data} {shownBy : α → Data → Prop}
    (h : ∀ {value data}, Rearranged (write value) data → shownBy value data) {values : List α}
    {items : List Data} (hitems : List.Forall₂ Rearranged (values.map write) items) :
    List.Forall₂ shownBy values items :=
  (List.forall₂_map_left_iff.1 hitems).imp fun _ _ => h

/-- The data of a dependency shows it, however it is arranged. -/
theorem Dependency.shownBy_of_rearranged {dependency : Dependency} {data : Data}
    (h : Rearranged dependency.toData data) : dependency.ShownBy data := by
  have hnames : (["name", "versions", "variants", "kind"] : List String).Nodup := by decide
  obtain ⟨name, hname, hnameData⟩ := h.exists_entry? hnames [] "name" rfl
  obtain ⟨versions, hversions, hversionsData⟩ := h.exists_entry? hnames [] "versions" rfl
  obtain ⟨constraints, hconstraints, hconstraintsData⟩ := h.exists_entry? hnames [] "variants" rfl
  obtain ⟨kind, hkind, hkindData⟩ := h.exists_entry? hnames [] "kind" rfl
  obtain ⟨items, rfl, hitems⟩ := hconstraintsData.exists_list
  refine ⟨hname.trans (congrArg some hnameData.eq_text), ?_,
    ⟨items, hconstraints, forall₂_shownBy Constraint.shownBy_of_rearranged hitems⟩, kind, hkind, ?_⟩
  · rw [hversions, hversionsData.eq_ofOption]
    cases dependency.versions <;> rfl
  · rw [hkindData.eq_text]
    cases dependency.kind with
    | build => exact .build
    | link => exact .link

/-! ## Plans -/

/-- The data of a constraint can be said in JSON. -/
theorem Constraint.writable_toData (constraint : Constraint) : Json.Writable constraint.toData := by
  cases constraint with
  | on variant | off variant => exact .single (.text variant)
  | value variant setting => exact .single (.ofTexts [variant, setting])

/-- The data of a dependency can be said in JSON. -/
theorem Dependency.writable_toData (dependency : Dependency) :
    Json.Writable dependency.toData := by
  refine .map (show (["name", "versions", "variants", "kind"] : List String).Nodup by decide) ?_
  simp only [List.forall_mem_cons]
  refine ⟨.text _, .ofOption _, .list fun item hitem => ?_, .text _, List.forall_mem_nil _⟩
  obtain ⟨constraint, _, rfl⟩ := List.mem_map.1 hitem
  exact constraint.writable_toData

/-- The data of a transport layer can be said in JSON. -/
theorem Transport.writable_toData (transport : Transport) : Json.Writable transport.toData := by
  cases transport with
  | gasnet source conduit debug =>
    refine .single (.map (show (["source", "conduit", "debug"] : List String).Nodup by decide) ?_)
    simp only [List.forall_mem_cons]
    refine ⟨?_, .text _, .bool _, List.forall_mem_nil _⟩
    cases source with
    | embedded => exact .text _
    | external root => exact .single (.text root)
  | mpi | none => exact .text _

/-- Derived values can be said in JSON. -/
theorem Derived.writable_toData (derived : Derived) : Json.Writable derived.toData := by
  have hfits : Json.Fits derived.maxFields.toNat := by
    have hsize := derived.maxFields.toNat_lt_size
    have hleast : Int64.minValue.toInt ≤ 0 := by decide
    exact ⟨by omega, by omega⟩
  refine .map (show (["transport", "output_level", "redop_complex", "fortran", "max_dims",
    "max_fields", "kokkos_cxx"] : List String).Nodup by decide) ?_
  simp only [List.forall_mem_cons]
  exact ⟨derived.transport.writable_toData, .text _, .bool _, .bool _,
    .int (Json.fits_toInt derived.maxDims), .int hfits, .ofOption _, List.forall_mem_nil _⟩

/-- The data of a plan can be said in JSON. -/
theorem BuildPlan.writable_toData (plan : BuildPlan) : Json.Writable plan.toData := by
  refine .map (show (["flags", "cxx_flags", "env", "dependencies", "derived"] : List String).Nodup
    by decide) ?_
  simp only [List.forall_mem_cons]
  refine ⟨.ofTexts _, .ofTexts _, Json.writable_entries_map .text plan.env,
    .list fun item hitem => ?_, plan.derived.writable_toData, List.forall_mem_nil _⟩
  obtain ⟨dependency, _, rfl⟩ := List.mem_map.1 hitem
  exact dependency.writable_toData

/-- **A printed plan shows the dependencies of the plan**, each in its place. -/
theorem BuildPlan.exists_shown (plan : BuildPlan) :
    ∃ shown items, Json.parse? (Json.pretty plan.toData ++ "\n") = some shown
      ∧ shown.entry? [] "dependencies" = some (.list items)
      ∧ List.Forall₂ Dependency.ShownBy plan.dependencies items := by
  have hnames : (["flags", "cxx_flags", "env", "dependencies", "derived"] : List String).Nodup := by
    decide
  obtain ⟨shown, hshown, hdata⟩ := Json.exists_parse?_printed plan.writable_toData
  obtain ⟨found, hfound, hrel⟩ := hdata.exists_entry? hnames [] "dependencies" rfl
  obtain ⟨items, rfl, hitems⟩ := hrel.exists_list
  exact ⟨shown, items, hshown, hfound, forall₂_shownBy Dependency.shownBy_of_rearranged hitems⟩

end BuildVariants
