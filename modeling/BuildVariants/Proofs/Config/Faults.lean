import BuildVariants.Proofs.Config.Merging
import BuildVariants.Proofs.Config.Typing
import BuildVariants.Proofs.Toml.Table

/-!
# Layers that are at fault

A configuration file can be missing, be no file that can be read, not be UTF-8, not be
TOML, or hold a value of the wrong type (`Config.Fault`), and these are all the ways in
which it can say nothing (`Config.fault_iff`). Then it says nothing at all: what stands
before the fault counts as little as what stands behind it, and the layers come to what
they come to without the file (`Config.layers_compose`).

What is written in an unusual way is not at fault if it can be read: a list of fields in
the place of their table, a table in the place of a format's name, and a date, which is
taken for a table (`Config.layers_unusualFiles`).
-/

namespace BuildVariants

/-- The files without what one path leads to. -/
def Files.without (files : Files) (path : String) : Files :=
  ⟨fun other => if other = path then .error .notFound else files.lookup other⟩

namespace Config

/-! ## Faults -/

/-- **A value of the wrong type** in what a file holds: something that cannot be the
table of a setting stands in its place, or something that may not be written for a
setting stands under its name. -/
inductive Mistyped (data : Data) : Prop
  | table (setting : Setting) {found : Data}
    (written : (setting.table, found) ∈ data.entries fields) (wrong : ¬ setting.IsTable found)
  | value (setting : Setting) {table found : Data}
    (tableWritten : (setting.table, table) ∈ data.entries fields)
    (written : (setting.key, found) ∈ table.entries setting.fields)
    (wrong : ¬ setting.Admits found)

/-- No value is of the wrong type if every setting fits where it stands. -/
theorem not_mistyped_iff {data : Data} :
    ¬ Mistyped data ↔ ∀ (setting : Setting) (table : Data),
      (setting.table, table) ∈ data.entries fields → setting.FitsIn table := by
  constructor
  · intro h setting table htable
    refine ⟨Classical.byContradiction fun hwrong => h (.table setting htable hwrong), ?_⟩
    intro value hvalue
    exact Classical.byContradiction fun hwrong => h (.value setting htable hvalue hwrong)
  · rintro h (⟨setting, htable, hwrong⟩ | ⟨setting, htable, hvalue, hwrong⟩)
    · exact hwrong (h setting _ htable).isTable
    · exact hwrong ((h setting _ htable).admits _ hvalue)

/-- **What can be wrong with a configuration file.** -/
inductive Fault (files : Files) (path : String) : Prop
  /-- Its path leads to nothing that can be opened: nothing is there, or the system
  refuses, for whatever reason it gives. -/
  | missing {error : PathError} (lookup : files.lookup path = .error error)
  /-- It is there, but it is a directory and no file that can be read. -/
  | unreadable (lookup : files.lookup path = .ok .directory)
  /-- It does not hold a text. -/
  | notUtf8 {content : ByteArray} (lookup : files.lookup path = .ok (.file content))
    (undecodable : String.fromUTF8? content = none)
  /-- Its text is not TOML. -/
  | notToml {text : String} (read : files.readText path = .ok text)
    (malformed : Toml.parse? text = none)
  /-- It holds a value of the wrong type. -/
  | mistyped {text : String} {data : Data} (read : files.readText path = .ok text)
    (parsed : Toml.parse? text = some data) (wrong : Mistyped data)

variable {files : Files} {path : String}

/-- A file that is not at fault can be read. -/
theorem exists_readText (h : ¬ Fault files path) : ∃ text, files.readText path = .ok text := by
  unfold Files.readText
  cases hlookup : files.lookup path with
  | error error => exact absurd (.missing hlookup) h
  | ok entry =>
    cases entry with
    | directory => exact absurd (.unreadable hlookup) h
    | file content =>
      cases htext : String.fromUTF8? content with
      | none => exact absurd (.notUtf8 hlookup htext) h
      | some text =>
        dsimp only
        rw [htext]
        exact ⟨text, rfl⟩

/-- **A file is at fault exactly if it says nothing.** -/
theorem fault_iff : Fault files path ↔ ∀ data, ¬ FileSays files path data := by
  constructor
  · rintro hfault data ⟨⟨text, hread, hparse⟩, hfits⟩
    cases hfault with
    | missing hlookup | unreadable hlookup =>
      rw [Files.readText, hlookup] at hread
      cases hread
    | notUtf8 hlookup hdecode =>
      rw [Files.readText, hlookup] at hread
      dsimp only at hread
      rw [hdecode] at hread
      cases hread
    | notToml hread' hmalformed =>
      obtain rfl := Except.ok.inj (hread.symm.trans hread')
      cases hparse.symm.trans hmalformed
    | mistyped hread' hparse' hwrong =>
      obtain rfl := Except.ok.inj (hread.symm.trans hread')
      obtain rfl := Option.some.inj (hparse.symm.trans hparse')
      exact not_mistyped_iff.2 (exists_ofData_iff.1 hfits).2 hwrong
  · refine fun hsilent => Classical.byContradiction fun hfault => ?_
    obtain ⟨text, hread⟩ := exists_readText hfault
    cases hparse : Toml.parse? text with
    | none => exact hfault (.notToml hread hparse)
    | some data =>
      have htyped := not_mistyped_iff.1 fun hwrong => hfault (.mistyped hread hparse hwrong)
      obtain ⟨entries, rfl, _⟩ := Toml.entries_of_parse? hparse
      exact hsilent _ ⟨⟨text, hread, hparse⟩, exists_ofData_iff.2 ⟨trivial, htyped⟩⟩

/-- A file that cannot be loaded is at fault. -/
theorem fault_of_load (h : (load files path).isOk = false) : Fault files path := by
  refine fault_iff.2 fun data hsays => ?_
  obtain ⟨⟨text, hread, hparse⟩, config, hfits⟩ := hsays
  rw [load, hread] at h
  simp only [ofToml, Toml.read, hparse, hfits] at h
  cases h

/-- **The layer of a file that is at fault says nothing.** -/
theorem layer_of_fault (h : Fault files path) : layer files path = default := by
  unfold layer
  split
  · cases hload : load files path with
    | error error => rfl
    | ok config =>
      have hloaded : (load files path).isOk = true := by
        rw [hload]
        rfl
      obtain ⟨data, hsays, _⟩ := exists_fileSays hloaded
      exact absurd hsays (fault_iff.1 h data)
  · rfl

/-! ## Layers without a file -/

/-- The layer of a path depends on what it leads to only. -/
theorem layer_congr {files files' : Files} {path : String}
    (h : files.lookup path = files'.lookup path) : layer files path = layer files' path := by
  have hpresent : files.present path = files'.present path := by
    rw [Files.present, Files.present, h]
  have hread : files.readText path = files'.readText path := by
    rw [Files.readText, Files.readText, h]
  rw [layer, layer, load, load, hpresent, hread]

/-- The other layers are as they are without the file. -/
theorem layer_without {other : String} (h : other ≠ path) :
    layer (files.without path) other = layer files other :=
  layer_congr (if_neg h)

/-- Without a file its layer says nothing. -/
theorem layer_without_self : layer (files.without path) path = default := by
  have hlookup : (files.without path).lookup path = .error .notFound := if_pos rfl
  exact layer_of_fault (.missing hlookup)

/-- **Layers come to what they come to without a file that is at fault.** -/
theorem ofFiles_without (h : Fault files path) (paths : List String) :
    ofFiles (files.without path) paths = ofFiles files paths := by
  rw [ofFiles_eq, ofFiles_eq]
  refine congrArg (List.foldl merge default) (List.map_congr_left fun other _ => ?_)
  by_cases hother : other = path
  · rw [hother, layer_without_self, layer_of_fault h]
  · exact layer_without hother

/-- Layers come to what they come to where a file that is at fault is not listed. -/
theorem ofFiles_drop (h : Fault files path) (before after : List String) :
    ofFiles files (before ++ path :: after) = ofFiles files (before ++ after) := by
  rw [← List.singleton_append, ofFiles_append, ofFiles_append, ofFiles_singleton,
    layer_of_fault h, default_merge, ← ofFiles_append]

/-- **Layers compose.** They can be merged in any grouping, and a layer that says
nothing changes nothing, above or below. A file that is at fault, in whatever way and
wherever in it, is such a layer: the result is as if the file were not there, and it is
what the other file says. -/
theorem layers_compose :
    (∀ lower middle upper : Config,
        (lower.merge middle).merge upper = lower.merge (middle.merge upper))
      ∧ (∀ config : Config, default.merge config = config ∧ config.merge default = config)
      ∧ (∀ first second : Stack, first.layers = second.layers → first.merged = second.merged)
      ∧ ∀ (files : Files) (path : String), Fault files path →
        (∀ user project,
          ofFiles files (paths user project) = ofFiles (files.without path) (paths user project))
          ∧ (∀ project, ofFiles files (paths (some path) project) = ofFiles files (paths none project)
            ∧ ofFiles files (paths (some path) project) = layer files project)
          ∧ ofFiles files (paths none path) = default
          ∧ ∀ user, ofFiles files (paths (some user) path) = layer files user := by
  refine ⟨merge_assoc, fun config => ⟨default_merge config, merge_default config⟩,
    fun first second h => by rw [Stack.merged_eq, Stack.merged_eq, h], fun files path hfault =>
    ⟨fun user project => (ofFiles_without hfault _).symm, fun project => ?_, ?_, fun user => ?_⟩⟩
  · have hdrop := ofFiles_drop hfault [] [project]
    exact ⟨hdrop, hdrop.trans (ofFiles_singleton files project)⟩
  · exact ofFiles_drop hfault [] []
  · exact (ofFiles_drop hfault [user] []).trans (ofFiles_singleton files user)

/-- A user's file, and files of a project that are at fault: one sets a compiler before
it goes wrong, one is not TOML in its last line, one is no text, and one is a
directory. -/
def slippedFiles : Files :=
  .ofList [("user.toml", .ok (.file "[defaults]\ncompiler = \"gcc\"\n".toUTF8)),
    ("mistyped.toml", .ok (.file
      "[defaults]\ncompiler = \"clang\"\n[variants]\nzlib = true\nshared = 1.5\n".toUTF8)),
    ("broken.toml", .ok (.file "[defaults]\ncompiler = \"clang\"\n[variants\n".toUTF8)),
    ("bytes.toml", .ok (.file ⟨#[255, 254]⟩)), ("folder.toml", .ok .directory)]

/-- Whichever way the project's file is at fault, the user's compiler stays, and nothing
of the project's file counts. -/
theorem layers_slippedFiles :
    Fault slippedFiles "mistyped.toml" ∧ Fault slippedFiles "broken.toml"
      ∧ Fault slippedFiles "bytes.toml" ∧ Fault slippedFiles "folder.toml"
      ∧ Fault slippedFiles "missing.toml"
      ∧ (ofFiles slippedFiles (paths (some "user.toml") "mistyped.toml")).defaults.compiler
        = some "gcc"
      ∧ (ofFiles slippedFiles (paths (some "user.toml") "mistyped.toml")).variants = .empty
      ∧ ofFiles slippedFiles (paths (some "mistyped.toml") "user.toml")
        = layer slippedFiles "user.toml" := by
  have hmistyped : Fault slippedFiles "mistyped.toml" := fault_of_load (by decide +kernel)
  obtain ⟨_, hlower, _, hupper⟩ := layers_compose.2.2.2 slippedFiles "mistyped.toml" hmistyped
  refine ⟨hmistyped, fault_of_load (by decide +kernel), fault_of_load (by decide +kernel),
    .unreadable rfl, .missing rfl, ?_, ?_, (hlower "user.toml").2⟩
  · rw [hupper]
    decide +kernel
  · rw [hupper]
    decide +kernel

/-- A user's file that sets a compiler, and three files of a project: one lists the
fallbacks in the place of their table, one names the format by the entry of a table, and
one has a date in the place of the variants. -/
def unusualFiles : Files :=
  .ofList [("user.toml", .ok (.file "[defaults]\ncompiler = \"gcc\"\n".toUTF8)),
    ("list.toml", .ok (.file
      "defaults = [\"clang\", \"Debug\", \"stable\", \"zen\"]\n".toUTF8)),
    ("entry.toml", .ok (.file "[output.format.json]\n".toUTF8)),
    ("date.toml", .ok (.file "variants = 1979-05-27\n".toUTF8))]

/-- **What stands where a table or a text is expected may count although it is none.** A
list of fallbacks is heard over the user's file, a table asks for JSON, and a date
supplies a variant that no one wrote; without the project's file there is nothing of
this. -/
theorem layers_unusualFiles :
    let user := some "user.toml"
    Toml.parse? "defaults = [\"clang\", \"Debug\", \"stable\", \"zen\"]\n"
        = some (.map [("defaults",
          .list [.text "clang", .text "Debug", .text "stable", .text "zen"])])
      ∧ (ofFiles unusualFiles (paths user "list.toml")).defaults.compiler = some "clang"
      ∧ (ofFiles (unusualFiles.without "list.toml") (paths user "list.toml")).defaults.compiler
        = some "gcc"
      ∧ Toml.parse? "[output.format.json]\n"
        = some (.map [("output", .map [("format", .map [("json", .map [])])])])
      ∧ (ofFiles unusualFiles (paths user "entry.toml")).format = .json
      ∧ (ofFiles (unusualFiles.without "entry.toml") (paths user "entry.toml")).format = .lines
      ∧ Toml.parse? "variants = 1979-05-27\n"
        = some (.map [("variants", .date "1979-05-27")])
      ∧ (ofFiles unusualFiles (paths user "date.toml")).variants.get? Data.dateKey
        = some (.text "1979-05-27")
      ∧ (ofFiles (unusualFiles.without "date.toml") (paths user "date.toml")).variants
        = .empty := by
  refine ⟨?_, ?_, ?_, ?_, ?_, ?_, ?_, ?_, ?_⟩ <;> decide +kernel

end Config

end BuildVariants
