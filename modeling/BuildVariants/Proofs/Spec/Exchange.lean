import BuildVariants.Proofs.Json.Reading
import BuildVariants.Spec.Reading

/-!
# Specs that are written and read back

A spec goes out as a record in which a target that is not set is left out and
what is not known of a dependency is written as nothing, and comes in through a
record whose fields may be missing and may stand in any order. Only the compiler
has a text of its own, so a spec is read back whenever the text of its compiler
is.
-/

namespace BuildVariants

open Data (Rearranged ReadsAs IsField)

/-- A text is read back as the text. -/
theorem Data.readsAs_toText (value : String) : ReadsAs toText (.text value) value := by
  intro found hfound
  rw [hfound.eq_text]
  rfl

/-- A text that may be missing is read back, missing or not. -/
theorem Data.readsAs_toOption_toText (value : Option String) :
    ReadsAs (toOption toText) (.ofOption value) value := by
  intro found hfound
  rw [hfound.eq_ofOption]
  cases value <;> rfl

/-- A path that may be missing is read back, missing or not. -/
theorem Data.readsAs_toOption_toPath (value : Option String) :
    ReadsAs (toOption toPath) (.ofOption value) value := by
  intro found hfound
  rw [hfound.eq_ofOption]
  cases value <;> rfl

/-! ## Known dependencies -/

namespace KnownDependency

/-- Only the entries of its name change a field. -/
theorem fields_of_setField {other : String} {found : Data} {before after : KnownDependency}
    (h : setField other found before = .ok after) :
    (other ≠ "version" → after.version = before.version)
      ∧ (other ≠ "prefix" → after.location = before.location)
      ∧ (other ≠ "cxx" → after.cxx = before.cxx) := by
  unfold setField at h
  iterate 3
    split at h
    · next hname =>
      obtain ⟨_, _, rfl⟩ := Data.map_eq_ok_iff.1 h
      refine ⟨?_, ?_, ?_⟩ <;> intro hother <;> first | rfl | exact absurd hname hother
  obtain rfl := Except.ok.inj h
  exact ⟨fun _ => rfl, fun _ => rfl, fun _ => rfl⟩

/-- A known dependency keeps its version under `version`. -/
theorem isField_version :
    IsField setField "version" (·.version) (Data.toOption Data.toText) :=
  .of_map (fun _ _ => rfl) (fun _ _ => rfl) fun hother h => (fields_of_setField h).1 hother

theorem isField_location :
    IsField setField "prefix" (·.location) (Data.toOption Data.toPath) :=
  .of_map (fun _ _ => rfl) (fun _ _ => rfl) fun hother h => (fields_of_setField h).2.1 hother

theorem isField_cxx : IsField setField "cxx" (·.cxx) (Data.toOption Data.toPath) :=
  .of_map (fun _ _ => rfl) (fun _ _ => rfl) fun hother h => (fields_of_setField h).2.2 hother

/-- **A known dependency is read back**, with its fields in any order. -/
theorem readsAs_toData (format : Data.Format) (known : KnownDependency) :
    ReadsAs (ofData format) known.toData known := by
  intro data h
  have hversion := Data.readsAs_toOption_toText known.version
  have hlocation := Data.readsAs_toOption_toPath known.location
  have hcxx := Data.readsAs_toOption_toPath known.cxx
  obtain ⟨result, hresult⟩ : ∃ result, ofData format data = .ok result :=
    Data.exists_toRecord_of_rearranged h (by
      simp only [List.forall_mem_cons]
      exact ⟨fun found hfound => isField_version.reads (hversion found hfound),
        fun found hfound => isField_location.reads (hlocation found hfound),
        fun found hfound => isField_cxx.reads (hcxx found hfound),
        fun _ hentry => nomatch hentry⟩)
  have hnames : (["version", "prefix", "cxx"] : List String).Nodup := by decide
  have hsame : result = known := by
    cases result
    cases known
    rw [mk.injEq]
    exact ⟨isField_version.get_eq h hnames hresult hversion,
      isField_location.get_eq h hnames hresult hlocation,
      isField_cxx.get_eq h hnames hresult hcxx⟩
  exact hsame ▸ hresult

/-- The data of a known dependency can be said in JSON. -/
theorem writable_toData (known : KnownDependency) : Json.Writable known.toData := by
  refine .map (by decide : ["version", "prefix", "cxx"].Nodup) ?_
  simp only [List.forall_mem_cons]
  exact ⟨.ofOption _, .ofOption _, .ofOption _, fun _ h => nomatch h⟩

end KnownDependency

/-! ## Specs -/

namespace Spec

/-- Only the entries of its name change a field. -/
theorem fields_of_setField {format : Data.Format} {other : String} {found : Data}
    {before after : Spec} (h : setField format other found before = .ok after) :
    (other ≠ "version" → after.version = before.version)
      ∧ (other ≠ "compiler" → after.compiler = before.compiler)
      ∧ (other ≠ "build_type" → after.buildType = before.buildType)
      ∧ (other ≠ "target" → after.target = before.target)
      ∧ (other ≠ "variants" → after.variants = before.variants)
      ∧ (other ≠ "dependencies" → after.dependencies = before.dependencies) := by
  unfold setField at h
  iterate 6
    split at h
    · next hname =>
      obtain ⟨_, _, rfl⟩ := Data.map_eq_ok_iff.1 h
      refine ⟨?_, ?_, ?_, ?_, ?_, ?_⟩ <;> intro hother <;>
        first | rfl | exact absurd hname hother
  obtain rfl := Except.ok.inj h
  exact ⟨fun _ => rfl, fun _ => rfl, fun _ => rfl, fun _ => rfl, fun _ => rfl, fun _ => rfl⟩

variable {format : Data.Format}

/-- A spec keeps its version under `version`. -/
theorem isField_version : IsField (setField format) "version" (·.version) Data.toText :=
  .of_map (fun _ _ => rfl) (fun _ _ => rfl) fun hother h => (fields_of_setField h).1 hother

/-- A spec keeps its compiler under `compiler`, as the text it is parsed from. -/
theorem isField_compiler : IsField (setField format) "compiler" (·.compiler) Data.toCompiler :=
  .of_map (fun _ _ => rfl) (fun _ _ => rfl) fun hother h => (fields_of_setField h).2.1 hother

/-- A spec keeps its build type under `build_type`, by name. -/
theorem isField_buildType :
    IsField (setField format) "build_type" (·.buildType) (BuildType.ofData format) :=
  .of_map (fun _ _ => rfl) (fun _ _ => rfl) fun hother h => (fields_of_setField h).2.2.1 hother

/-- A spec keeps its target under `target`, where it may be missing. -/
theorem isField_target :
    IsField (setField format) "target" (·.target) (Data.toOption Data.toText) :=
  .of_map (fun _ _ => rfl) (fun _ _ => rfl) fun hother h => (fields_of_setField h).2.2.2.1 hother

theorem isField_variants :
    IsField (setField format) "variants" (·.variants) (Data.toNameMap SuppliedValue.ofData) :=
  .of_map (fun _ _ => rfl) (fun _ _ => rfl) fun hother h => (fields_of_setField h).2.2.2.2.1 hother

theorem isField_dependencies : IsField (setField format) "dependencies" (·.dependencies)
    (Data.toNameMap (KnownDependency.ofData format)) :=
  .of_map (fun _ _ => rfl) (fun _ _ => rfl) fun hother h => (fields_of_setField h).2.2.2.2.2 hother

/-- A compiler is read back from its text whenever its text parses to it. -/
theorem readsAs_toCompiler {compiler : Compiler}
    (h : Compiler.parse compiler.render = .ok compiler) :
    ReadsAs Data.toCompiler (.text compiler.render) compiler := by
  intro found hfound
  rw [hfound.eq_text, Data.toCompiler, Data.toText]
  simp only [bind, Except.bind, h]

/-- A build type is read back from its name. -/
theorem readsAs_buildType (buildType : BuildType) :
    ReadsAs (BuildType.ofData format) (.text buildType.name) buildType := by
  intro found hfound
  rw [hfound.eq_text]
  exact Data.toChoice_eq_ok_iff.2 ⟨_, BuildType.ofName?_name buildType, .text⟩

/-- A supplied value is read back as one of its own kind: no text is taken for a
truth value or a number. -/
theorem readsAs_suppliedValue (value : SuppliedValue) :
    ReadsAs SuppliedValue.ofData value.toData value := by
  intro found hfound
  have hsame : found = value.toData := by cases value <;> (cases hfound; rfl)
  rw [hsame, SuppliedValue.ofData_toData]

/-- A supplied value can be said in JSON, the least and the greatest integer
included. -/
theorem writable_suppliedValue (value : SuppliedValue) : Json.Writable value.toData := by
  cases value with
  | bool value => exact .bool value
  | int value => exact .int (Json.fits_toInt value)
  | text value => exact .text value

/-- The fields that a spec is written with. -/
def entries (spec : Spec) : List (String × Data) :=
  [("version", .text spec.version), ("compiler", .text spec.compiler.render),
      ("build_type", .text spec.buildType.name)]
    ++ (match spec.target with
      | some target => [("target", .text target)]
      | none => [])
    ++ [("variants", .map (spec.variants.map fun _ value => value.toData).entries),
      ("dependencies", .map (spec.dependencies.map fun _ known => known.toData).entries)]

/-- No two fields of a spec share a name, whether or not a target is written. -/
theorem nodup_entries (spec : Spec) : (spec.entries.map (·.1)).Nodup := by
  obtain ⟨_, _, _, target, _, _⟩ := spec
  cases target
  · exact (by decide : ["version", "compiler", "build_type", "variants", "dependencies"].Nodup)
  · exact (by decide :
      ["version", "compiler", "build_type", "target", "variants", "dependencies"].Nodup)

/-- What holds of each field holds of every entry. -/
theorem forall_mem_entries {spec : Spec} {p : String × Data → Prop}
    (hversion : p ("version", .text spec.version))
    (hcompiler : p ("compiler", .text spec.compiler.render))
    (hbuildType : p ("build_type", .text spec.buildType.name))
    (htarget : ∀ name, p ("target", .text name))
    (hvariants : p ("variants", .map (spec.variants.map fun _ value => value.toData).entries))
    (hdependencies :
      p ("dependencies", .map (spec.dependencies.map fun _ known => known.toData).entries)) :
    ∀ entry ∈ spec.entries, p entry := by
  simp only [entries, List.forall_mem_append, List.forall_mem_cons]
  refine ⟨⟨⟨hversion, hcompiler, hbuildType, fun _ h => nomatch h⟩, ?_⟩, hvariants,
    hdependencies, fun _ h => nomatch h⟩
  cases spec.target with
  | none => exact fun _ h => nomatch h
  | some name => exact List.forall_mem_cons.2 ⟨htarget name, fun _ h => nomatch h⟩

/-- **A spec is read back**, with its fields in any order. -/
theorem readsAs_toData {spec : Spec}
    (h : Compiler.parse spec.compiler.render = .ok spec.compiler) :
    ReadsAs (ofData format) spec.toData spec := by
  intro data hdata
  have hnames := spec.nodup_entries
  have hversion := Data.readsAs_toText spec.version
  have hcompiler := readsAs_toCompiler h
  have hbuildType : ReadsAs (BuildType.ofData format) _ _ := readsAs_buildType spec.buildType
  have htarget := fun name => Data.readsAs_toOption_toText (some name)
  have hvariants := Data.readsAs_toNameMap readsAs_suppliedValue spec.variants
  have hdependencies :=
    Data.readsAs_toNameMap (KnownDependency.readsAs_toData format) spec.dependencies
  obtain ⟨result, hresult⟩ : ∃ result, ofData format data = .ok result :=
    Data.exists_toRecord_of_rearranged hdata (forall_mem_entries
      (fun found hfound => isField_version.reads (hversion found hfound))
      (fun found hfound => isField_compiler.reads (hcompiler found hfound))
      (fun found hfound => isField_buildType.reads (hbuildType found hfound))
      (fun name found hfound => isField_target.reads (htarget name found hfound))
      (fun found hfound => isField_variants.reads (hvariants found hfound))
      (fun found hfound => isField_dependencies.reads (hdependencies found hfound)))
  have hsame : result = spec := by
    obtain ⟨version, compiler, buildType, target, variants, dependencies⟩ := spec
    cases result
    rw [mk.injEq]
    refine ⟨isField_version.get_eq hdata hnames hresult hversion,
      isField_compiler.get_eq hdata hnames hresult hcompiler,
      isField_buildType.get_eq hdata hnames hresult hbuildType,
      isField_target.get_eq hdata hnames hresult ?_,
      isField_variants.get_eq hdata hnames hresult ?_,
      isField_dependencies.get_eq hdata hnames hresult ?_⟩
    -- whether a target is written decides where the fields behind it are found
    all_goals cases target
    exacts [rfl, htarget _, hvariants, hvariants, hdependencies, hdependencies]
  exact hsame ▸ hresult

/-- The data of a spec can be said in JSON. -/
theorem writable_toData (spec : Spec) : Json.Writable spec.toData :=
  .map spec.nodup_entries (forall_mem_entries (.text _) (.text _) (.text _) (fun _ => .text _)
    (Json.writable_entries_map writable_suppliedValue spec.variants)
    (Json.writable_entries_map KnownDependency.writable_toData spec.dependencies))

/-- **A spec survives being written and read**: the data of a spec whose
compiler's text is read as the compiler is read as the spec, in either format and
with the entries in any order, and so are the JSON texts of that data. -/
theorem spec_read_back (spec : Spec)
    (h : Compiler.parse spec.compiler.render = .ok spec.compiler) :
    (∀ format data, Rearranged spec.toData data → ofData format data = .ok spec)
      ∧ ∀ text ∈ [Json.compact spec.toData, Json.pretty spec.toData],
        (Json.parse? text).map (ofData .json) = some (.ok spec) := by
  refine ⟨fun format => readsAs_toData h, ?_⟩
  simp only [List.forall_mem_cons]
  obtain ⟨compact, hcompact, hcompactData⟩ := Json.exists_parse?_compact (writable_toData spec)
  obtain ⟨pretty, hpretty, hprettyData⟩ := Json.exists_parse?_pretty (writable_toData spec)
  rw [hcompact, hpretty]
  exact ⟨congrArg some (readsAs_toData h compact hcompactData),
    congrArg some (readsAs_toData h pretty hprettyData), fun _ hmem => nomatch hmem⟩

/-- A spec with a value of each kind, the least integer and a text that has to be
escaped among them, a compiler whose version has an `@` of its own, and two
dependencies, one of which is not known at all. -/
def assorted : Spec where
  version := "24.03 \"rc\"\n"
  compiler := ⟨.other "nvhpc", some "24.3@beta"⟩
  buildType := .minSizeRel
  target := none
  variants := .ofList [("cuda", .bool true), ("cuda_arch", .text "70, \\ \t80"),
    ("max_dim", .int Int64.minValue), ("", .text "true")]
  dependencies := .ofList [("mpi", ⟨some "4.1", some "/opt/mpi", none⟩), ("hwloc", .unknown)]

/-- The texts of that spec are read back as the spec. -/
theorem assorted_read_back :
    Compiler.parse assorted.compiler.render = .ok assorted.compiler
      ∧ (∀ format data, Rearranged assorted.toData data → ofData format data = .ok assorted)
      ∧ ∀ text ∈ [Json.compact assorted.toData, Json.pretty assorted.toData],
        (Json.parse? text).map (ofData .json) = some (.ok assorted) := by
  have h : Compiler.parse assorted.compiler.render = .ok assorted.compiler := by decide +kernel
  exact ⟨h, spec_read_back assorted h⟩

end Spec

end BuildVariants
