import BuildVariants.Proofs.Schema
import BuildVariants.Proofs.Toml.Table
import BuildVariants.Spec.File

/-!
# Two ways to read a spec

A spec can be read from a TOML text as it stands, and it can be assembled from
a spec file, which is a record of its own: its fields are optional, what is
missing is filled in afterwards, and a name that is no field is an error there
and nothing at all to the other. Over a configuration that says nothing the two
come to the same (`readings_agree`).

Entry by entry, the spec that a file comes to by itself (`SpecFile.alone`)
changes as the spec that is read does (`setField_alone`), so after all entries
the two are equal (`ofData_alone`). For one field the readers are not the same:
a spec file takes a null for a field that is missing. A TOML text holds none.
-/

namespace BuildVariants

namespace Data

/-- The names of a map, in the order of its entries. -/
def names : Data → List String
  | .map entries => entries.map (·.1)
  | _ => []

/-- A map without the entries of a name. -/
def without (name : String) : Data → Data
  | .map entries => .map (entries.filter (·.1 ≠ name))
  | data => data

/-- What may be absent is read as what may not, where something is there. -/
theorem map_toOption {α β : Type} {read : Data → Except Error α} {found : Data}
    (h : found ≠ .null) (make : Option α → β) :
    (toOption read found).map make = (read found).map fun value => make (some value) := by
  have hread : toOption read found = (read found).map some := by
    cases found with
    | null => exact absurd rfl h
    | _ => rfl
  rw [hread]
  cases read found <;> rfl

end Data

/-- A file that holds a text is read as the text. -/
theorem Files.readText_of_lookup {files : Files} {path text : String}
    (h : files.lookup path = .ok (.file text.toUTF8)) : files.readText path = .ok text := by
  have hvalid : String.fromUTF8? text.toUTF8 = some text := by
    unfold String.fromUTF8?
    split
    · rfl
    · next hnot => exact absurd text.isValidUTF8 hnot
  unfold readText
  rw [h]
  dsimp only
  rw [hvalid]

/-- What is read from a text is read from what it says. -/
theorem Toml.read_of_parse? {α : Type} (ofData : Data → Except Data.Error α) {text : String}
    {found : Data} (h : parse? text = some found) :
    read ofData text = (ofData found).mapError .data := by
  unfold read
  rw [h]

/-! ## Known names -/

namespace SpecFile

/-- **The spec that a spec file comes to by itself.** -/
def alone (file : SpecFile) : Spec :=
  { version := file.version.getD Spec.defaultVersion
    compiler := file.compiler.getD .gcc
    buildType := file.buildType.getD .relWithDebInfo
    target := file.target
    variants := file.variants
    dependencies := file.dependencies }

/-- Over a configuration that says nothing a spec file stands by itself. -/
theorem toSpec_default (file : SpecFile) : file.toSpec .default = .ok file.alone := by
  obtain ⟨version, compiler, buildType, target, variants, dependencies⟩ := file
  have hvariants : Config.default.variants.overlay variants = variants :=
    NameMap.insertMany_entries variants
  unfold toSpec
  rw [hvariants]
  cases version <;> cases compiler <;> cases buildType <;> cases target <;> rfl

variable {format : Data.Format}

/-- **A field that is set changes the file as it changes the spec.** -/
theorem setField_alone {name : String} {found : Data} (hname : name ∈ Spec.fields)
    (hfound : found ≠ .null) (file : SpecFile) :
    (setField format name found file).map alone
      = Spec.setField format name found file.alone := by
  have hmap {α : Type} (read : Except Data.Error α) (set : α → SpecFile) :
      (read.map set).map alone = read.map fun value => (set value).alone := by
    cases read <;> rfl
  simp only [Spec.fields, List.mem_cons, List.not_mem_nil, or_false] at hname
  rcases hname with rfl | rfl | rfl | rfl | rfl | rfl
  · show ((Data.toOption Data.toText found).map fun version => { file with version }).map alone = _
    rw [hmap, Data.map_toOption hfound]
    rfl
  · show ((Data.toOption Data.toCompiler found).map fun compiler =>
      { file with compiler }).map alone = _
    rw [hmap, Data.map_toOption hfound]
    rfl
  · show ((Data.toOption (BuildType.ofData format) found).map fun buildType =>
      { file with buildType }).map alone = _
    rw [hmap, Data.map_toOption hfound]
    rfl
  · exact hmap _ _
  · exact hmap _ _
  · exact hmap _ _

/-- **Entry by entry, a spec file is read as a spec is.** -/
theorem foldlM_setField_alone {entries : List (String × Data)}
    (h : ∀ entry ∈ entries, entry.1 ∈ Spec.fields ∧ entry.2 ≠ .null) (file : SpecFile) :
    (entries.foldlM (fun file entry => setField format entry.1 entry.2 file) file).map alone
      = entries.foldlM (fun spec entry => Spec.setField format entry.1 entry.2 spec)
          file.alone := by
  induction entries generalizing file with
  | nil => rfl
  | cons entry rest ih =>
    obtain ⟨⟨hname, hfound⟩, hrest⟩ := List.forall_mem_cons.1 h
    rw [List.foldlM_cons, List.foldlM_cons, ← setField_alone hname hfound]
    cases setField format entry.1 entry.2 file with
    | error error => rfl
    | ok next => exact ih hrest next

/-- A record of known names is read as a spec file as it is read as a spec. -/
theorem ofData_alone {entries : List (String × Data)}
    (h : ∀ entry ∈ entries, entry.1 ∈ Spec.fields ∧ entry.2 ≠ .null) :
    (ofData format (.map entries)).map alone = Spec.ofData format (.map entries) :=
  foldlM_setField_alone h empty

/-! ## Other names -/

theorem setField_of_not_mem {name : String} (h : name ∉ Spec.fields) (found : Data)
    (file : SpecFile) :
    setField format name found file = .error (.unknownField name Spec.fields) := by
  simp only [Spec.fields, List.mem_cons, List.not_mem_nil, or_false, not_or] at h
  obtain ⟨hversion, hcompiler, hbuildType, htarget, hvariants, hdependencies⟩ := h
  rw [setField, if_neg hversion, if_neg hcompiler, if_neg hbuildType, if_neg htarget,
    if_neg hvariants, if_neg hdependencies]

/-- **A spec file has known names only.** -/
theorem mem_fields_of_foldlM {entries : List (String × Data)} {file result : SpecFile}
    (h : entries.foldlM (fun file entry => setField format entry.1 entry.2 file) file
      = .ok result) : ∀ entry ∈ entries, entry.1 ∈ Spec.fields := by
  induction entries generalizing file with
  | nil => exact List.forall_mem_nil _
  | cons entry rest ih =>
    rw [List.foldlM_cons] at h
    cases hstep : setField format entry.1 entry.2 file with
    | error error =>
      rw [hstep] at h
      cases h
    | ok next =>
      rw [hstep] at h
      refine List.forall_mem_cons.2 ⟨?_, ih h⟩
      refine Decidable.byContradiction fun hnot => ?_
      rw [setField_of_not_mem hnot] at hstep
      cases hstep

end SpecFile

namespace Spec

variable {format : Data.Format}

theorem setField_of_not_mem {name : String} (h : name ∉ fields) (found : Data) (spec : Spec) :
    setField format name found spec = .ok spec := by
  simp only [fields, List.mem_cons, List.not_mem_nil, or_false, not_or] at h
  obtain ⟨hversion, hcompiler, hbuildType, htarget, hvariants, hdependencies⟩ := h
  rw [setField, if_neg hversion, if_neg hcompiler, if_neg hbuildType, if_neg htarget,
    if_neg hvariants, if_neg hdependencies]

/-- **A spec is read past the names it does not know.** -/
theorem ofData_without {name : String} (h : name ∉ fields) (entries : List (String × Data)) :
    ofData format ((Data.map entries).without name) = ofData format (.map entries) := by
  show (entries.filter (·.1 ≠ name)).foldlM
      (fun spec entry => setField format entry.1 entry.2 spec) default
    = entries.foldlM (fun spec entry => setField format entry.1 entry.2 spec) default
  generalize default = spec
  induction entries generalizing spec with
  | nil => rfl
  | cons entry rest ih =>
    by_cases hname : entry.1 = name
    · rw [List.filter_cons_of_neg (by simp [hname]), List.foldlM_cons,
        setField_of_not_mem (hname ▸ h)]
      exact ih spec
    · rw [List.filter_cons_of_pos (by simp [hname]), List.foldlM_cons, List.foldlM_cons]
      cases setField format entry.1 entry.2 spec with
      | error error => rfl
      | ok next => exact ih next

/-! ## Texts and files -/

section Texts

variable {files : Files} {path text : String} {document : Data}

/-- A spec file is read from the text that its file holds. -/
theorem load_of_readText (hread : files.readText path = .ok text) :
    SpecFile.load files path = (SpecFile.ofToml text).mapError (.malformed path) := by
  rw [SpecFile.load, hread]

/-- A text that cannot be read as a spec file makes every request fail that
names it. -/
theorem assemble_of_ofToml_error {failure : Toml.Failure} (hread : files.readText path = .ok text)
    (h : SpecFile.ofToml text = .error failure) (tokens : List String) (config : Config) :
    assemble files (some path) tokens config = .error (.malformed path failure) := by
  unfold assemble
  rw [Option.elim_some, load_of_readText hread, h]
  rfl

/-- Without tokens and over a configuration that says nothing a request comes
to what its spec file comes to by itself. -/
theorem assemble_default (hread : files.readText path = .ok text) :
    assemble files (some path) [] .default
      = ((SpecFile.ofToml text).map SpecFile.alone).mapError (.malformed path) := by
  cases h : SpecFile.ofToml text with
  | error failure => exact assemble_of_ofToml_error hread h [] .default
  | ok file =>
    unfold assemble
    rw [Option.elim_some, load_of_readText hread, h]
    dsimp only [Except.mapError]
    rw [SpecFile.toSpec_default]
    rfl

/-- **A spec file and a spec say the same, with one difference.** Take a TOML
text and a file that holds it. If all names at the top of the text are fields of
a spec, then to assemble a spec from the file, without tokens and over a
configuration that says nothing, comes to the spec that is read from the text,
or fails as reading it fails. If there is another name, then nothing can be
assembled from the file, with whatever tokens and over whatever configuration,
while the spec is read from the text as it is read without that name. -/
theorem readings_agree (hread : files.readText path = .ok text)
    (hdocument : Toml.parse? text = some document) :
    ((∀ name ∈ document.names, name ∈ fields) →
        (∀ spec, assemble files (some path) [] .default = .ok spec ↔ ofToml text = .ok spec)
        ∧ ∀ failure, assemble files (some path) [] .default = .error (.malformed path failure)
            ↔ ofToml text = .error failure)
      ∧ ∀ name ∈ document.names, name ∉ fields →
          (∀ tokens config, ∃ error,
            assemble files (some path) tokens config = .error (.malformed path (.data error)))
          ∧ ofToml text = (ofData .toml (document.without name)).mapError .data
          ∧ ∀ shorter, Toml.parse? shorter = some (document.without name) →
              ofToml text = ofToml shorter := by
  obtain ⟨entries, rfl, hfilled⟩ := Toml.entries_of_parse? hdocument
  have hspec : ofToml text = (ofData .toml (.map entries)).mapError .data :=
    Toml.read_of_parse? _ hdocument
  have hfile : SpecFile.ofToml text = (SpecFile.ofData .toml (.map entries)).mapError .data :=
    Toml.read_of_parse? _ hdocument
  refine ⟨fun hknown => ?_, fun name hname hunknown => ⟨fun tokens config => ?_, ?_, ?_⟩⟩
  · have hsame : (SpecFile.ofToml text).map SpecFile.alone = ofToml text := by
      have hentries : ∀ entry ∈ entries, entry.1 ∈ fields ∧ entry.2 ≠ .null := fun entry hentry =>
        ⟨hknown entry.1 (List.mem_map_of_mem hentry), hfilled entry hentry⟩
      rw [hspec, hfile, ← SpecFile.ofData_alone hentries]
      cases SpecFile.ofData .toml (.map entries) <;> rfl
    rw [assemble_default hread, hsame]
    cases ofToml text with
    | ok spec => simp [Except.mapError]
    | error failure => simp [Except.mapError]
  · obtain ⟨entry, hentry, rfl⟩ := List.mem_map.1 hname
    cases hdata : SpecFile.ofData .toml (.map entries) with
    | ok file => exact absurd (SpecFile.mem_fields_of_foldlM hdata entry hentry) hunknown
    | error error =>
      rw [hdata] at hfile
      exact ⟨error, assemble_of_ofToml_error hread hfile tokens config⟩
  · rw [ofData_without hunknown, hspec]
  · intro shorter hshorter
    have hwithout : ofToml shorter = _ := Toml.read_of_parse? _ hshorter
    rw [hwithout, ofData_without hunknown, hspec]

end Texts

/-- A spec file for a processor, with the compiler of a dependency. -/
def hostText : String :=
  "build_type = \"Debug\"\n[variants]\ncuda = true\n[dependencies.kokkos]\ncxx = \"/g++\"\n"

/-- The same with a name that no spec has. -/
def tintedText : String := "tint = 7\n" ++ hostText

/-- The files with these texts. -/
def hostFiles : Files :=
  .ofList [("host.toml", .ok (.file hostText.toUTF8)),
    ("tinted.toml", .ok (.file tintedText.toUTF8))]

/-- What the text says. -/
def hostDocument : Data :=
  .map [("build_type", .text "Debug"), ("variants", .map [("cuda", .bool true)]),
    ("dependencies", .map [("kokkos", .map [("cxx", .text "/g++")])])]

/-- Both ways give the same spec, and the one that skips the name gives it for
the other text too. -/
theorem readings_hostFiles :
    ∃ spec, ofToml hostText = .ok spec
      ∧ assemble hostFiles (some "host.toml") [] .default = .ok spec
      ∧ spec.version = "stable" ∧ spec.buildType = .debug ∧ spec.target = none
      ∧ ofToml tintedText = .ok spec
      ∧ ∀ tokens config, ∃ error, assemble hostFiles (some "tinted.toml") tokens config
          = .error (.malformed "tinted.toml" (.data error)) := by
  have hhost : Toml.parse? hostText = some hostDocument := by decide +kernel
  have htinted : Toml.parse? tintedText
      = some (.map [("tint", .int 7), ("build_type", .text "Debug"),
          ("variants", .map [("cuda", .bool true)]),
          ("dependencies", .map [("kokkos", .map [("cxx", .text "/g++")])])]) := by decide +kernel
  have hfields : (ofToml hostText).toOption.map (fun spec =>
      (spec.version, spec.buildType, spec.target)) = some ("stable", .debug, none) := by
    decide +kernel
  obtain ⟨spec, hspec⟩ : ∃ spec, ofToml hostText = .ok spec := exists_ok_of_isOk (by decide +kernel)
  rw [hspec] at hfields
  have hread : hostFiles.readText "host.toml" = .ok hostText := Files.readText_of_lookup rfl
  have hreadTinted : hostFiles.readText "tinted.toml" = .ok tintedText :=
    Files.readText_of_lookup rfl
  obtain ⟨hagree, _⟩ := readings_agree hread hhost
  obtain ⟨_, hother⟩ := readings_agree hreadTinted htinted
  obtain ⟨hfails, _, hskips⟩ := hother "tint" (by decide) (by decide)
  have hshorter := hskips hostText hhost
  simp only [Except.toOption, Option.map_some, Option.some.injEq, Prod.mk.injEq] at hfields
  obtain ⟨hversion, hbuildType, htarget⟩ := hfields
  exact ⟨spec, hspec, ((hagree (by decide)).1 spec).2 hspec, hversion, hbuildType, htarget,
    hshorter.trans hspec, hfails⟩

end Spec

end BuildVariants
