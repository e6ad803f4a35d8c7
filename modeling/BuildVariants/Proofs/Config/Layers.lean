import BuildVariants.Config.Reading
import BuildVariants.Proofs.Data.Reading

/-!
# Layers of configuration

A project's configuration is laid over a user's, setting by setting. What a
file says of a setting is read off the data written in it (`Setting.written?`),
and what holds in the end off the configuration (`Setting.inForce`). The
project's word counts before the user's, and both before what is built in –
but for the output format (`inForce_layers_iff`): to lay one configuration over
the other, the format of lines is taken for silence, so a project cannot ask
for lines where the user asks for JSON.
-/

namespace BuildVariants

/-- A fallback for what a spec file leaves out. -/
inductive Fallback
  | compiler
  | buildType
  | version
  | target
deriving DecidableEq, Repr

/-- Something that a configuration can set. -/
inductive Setting
  | fallback (fallback : Fallback)
  | variant (name : String)
  | format
deriving DecidableEq, Repr

namespace Fallback

/-- The name under which a fallback is written. -/
def key : Fallback → String
  | compiler => "compiler"
  | buildType => "build_type"
  | version => "version"
  | target => "target"

/-- The value of a fallback. -/
def get : Fallback → SpecDefaults → Option String
  | compiler, defaults => defaults.compiler
  | buildType, defaults => defaults.buildType
  | version, defaults => defaults.version
  | target, defaults => defaults.target

end Fallback

namespace Setting

/-- The table in which a setting is written. -/
def table : Setting → String
  | fallback _ => "defaults"
  | variant _ => "variants"
  | format => "output"

/-- The fields of that table, where they are fixed. -/
def fields : Setting → List String
  | fallback _ => SpecDefaults.fields
  | variant _ => []
  | format => ["format"]

/-- The name under which a setting is written in its table. -/
def key : Setting → String
  | fallback f => f.key
  | variant name => name
  | format => "format"

/-- The value that data stands for under the name of a setting, if it stands for one. A
format is named by a text, or by the only entry of a table. -/
def value? : Setting → Data → Option SuppliedValue
  | fallback _, found => (SuppliedValue.ofData found).toOption
  | variant _, found => (SuppliedValue.ofData found).toOption
  | format, .text name => some (.text name)
  | format, .map [(name, _)] => some (.text name)
  | format, _ => none

/-- **What a file says of a setting**, by the data written in it. -/
def written? (setting : Setting) (data : Data) : Option SuppliedValue :=
  (data.entry? Config.fields setting.table).bind fun table =>
    (table.entry? setting.fields setting.key).bind setting.value?

/-- **What a configuration holds for a setting.** -/
def inForce : Setting → Config → Option SuppliedValue
  | fallback f, config => (f.get config.defaults).map .text
  | variant name, config => config.variants.get? name
  | format, config => some (.text config.format.name)

/-- What holds for a setting of which no file speaks. -/
def builtIn : Setting → Option SuppliedValue
  | fallback _ => none
  | variant _ => none
  | format => some (.text "lines")

/-! ## One file -/

/-- What is read as an optional text is the text that is written. -/
theorem value?_of_toOption_toText {fallback : Fallback} {found : Data} {value : Option String}
    (h : Data.toOption Data.toText found = .ok value) :
    value.map .text = (Setting.fallback fallback).value? found := by
  cases found with
  | text value =>
    obtain rfl := Except.ok.inj h
    rfl
  | null =>
    obtain rfl := Except.ok.inj h
    rfl
  | bool b => cases h
  | int n => cases h
  | real shown => cases h
  | list items => cases h
  | map entries => cases h

/-- A format that is read is the one that is named. -/
theorem value?_of_format {source : Data.Format} {found : Data} {format : OutputFormat}
    (h : OutputFormat.ofData source found = .ok format) :
    Setting.format.value? found = some (.text format.name) := by
  obtain ⟨name, hname, hchooses⟩ := Data.toChoice_eq_ok_iff.1 h
  rw [OutputFormat.ofName?_eq_some_iff.1 hname]
  cases hchooses <;> rfl

/-- Only the entries of its name set a fallback. -/
theorem get_setField {fallback : Fallback} {other : String} {found : Data}
    {before after : SpecDefaults} (hother : other ≠ fallback.key)
    (h : SpecDefaults.setField other found before = .ok after) :
    fallback.get after = fallback.get before := by
  unfold SpecDefaults.setField at h
  dsimp only at h
  iterate 4
    split at h
    · next hname =>
      obtain ⟨_, _, rfl⟩ := Data.map_eq_ok_iff.1 h
      cases fallback <;> first | rfl | exact absurd hname hother
  rw [Except.ok.inj h]

/-- A fallback is what is written under its name. -/
theorem written_of_fallbacks {source : Data.Format} {table : Data} {defaults : SpecDefaults}
    (h : SpecDefaults.ofData source table = .ok defaults) (fallback : Fallback) :
    (fallback.get defaults).map .text
      = ((table.entry? SpecDefaults.fields fallback.key).bind
          (Setting.fallback fallback).value?).or none := by
  have houtcome : Data.Outcome (fun found value => Data.toOption Data.toText found = .ok value)
      (fallback.get ⟨none, none, none, none⟩)
      (table.entry? SpecDefaults.fields fallback.key) (fallback.get defaults) := by
    refine Data.outcome_of_toRecord fallback.get (fun hset => ?_)
      (fun hother hset => get_setField hother hset) h
    cases fallback <;> obtain ⟨_, hread, rfl⟩ := Data.map_eq_ok_iff.1 hset <;> exact hread
  refine houtcome.eq_or (·.map SuppliedValue.text) (fun hread => ?_) ?_
  · rw [value?_of_toOption_toText hread, Option.or_none]
  · cases fallback <;> rfl

/-- The variants are what is written under their names. -/
theorem written_of_variants {table : Data} {variants : NameMap SuppliedValue}
    (h : Data.toNameMap SuppliedValue.ofData table = .ok variants) (name : String) :
    variants.get? name = ((table.entry? [] name).bind (Setting.variant name).value?).or none := by
  refine (Data.outcome_of_toNameMap h name).eq_or id (fun hread => ?_) rfl
  obtain ⟨value, hread, hget⟩ := hread
  rw [id, hget, value?, hread]
  rfl

/-- The format is the one that is written, or lines. -/
theorem written_of_settings {source : Data.Format} {table : Data} {format : OutputFormat}
    (h : OutputFormat.ofSettings source table = .ok format) :
    some (.text format.name)
      = ((table.entry? ["format"] "format").bind Setting.format.value?).or
          (some (.text "lines")) := by
  have houtcome : Data.Outcome (fun found value => OutputFormat.ofData source found = .ok value)
      OutputFormat.lines (table.entry? ["format"] "format") format := by
    refine Data.outcome_of_toRecord id (fun hset => ?_) (fun hother hset => ?_) h
    · exact hset
    · rw [OutputFormat.setField, if_neg hother] at hset
      exact (Except.ok.inj hset).symm
  refine houtcome.eq_or (fun format => some (SuppliedValue.text format.name)) (fun hread => ?_) rfl
  rw [value?_of_format hread, Option.some_or]

/-- Only the entries of its name set a table. -/
theorem tables_of_setField {source : Data.Format} {other : String} {found : Data}
    {before after : Config} (h : Config.setField source other found before = .ok after) :
    (other ≠ "defaults" → after.defaults = before.defaults)
      ∧ (other ≠ "variants" → after.variants = before.variants)
      ∧ (other ≠ "output" → after.format = before.format) := by
  unfold Config.setField at h
  split at h
  · next hname =>
    obtain ⟨_, _, rfl⟩ := Data.map_eq_ok_iff.1 h
    exact ⟨fun hother => absurd hname hother, fun _ => rfl, fun _ => rfl⟩
  split at h
  · next hname =>
    obtain ⟨_, _, rfl⟩ := Data.map_eq_ok_iff.1 h
    exact ⟨fun _ => rfl, fun hother => absurd hname hother, fun _ => rfl⟩
  split at h
  · next hname =>
    obtain ⟨_, _, rfl⟩ := Data.map_eq_ok_iff.1 h
    exact ⟨fun _ => rfl, fun _ => rfl, fun hother => absurd hname hother⟩
  · obtain rfl := Except.ok.inj h
    exact ⟨fun _ => rfl, fun _ => rfl, fun _ => rfl⟩

/-- The tables of a configuration are read from the last entries of their
names. -/
theorem outcome_tables {source : Data.Format} {data : Data} {config : Config}
    (h : Config.ofData source data = .ok config) :
    Data.Outcome (fun found value => SpecDefaults.ofData source found = .ok value)
        Config.default.defaults (data.entry? Config.fields "defaults") config.defaults
      ∧ Data.Outcome (fun found value => Data.toNameMap SuppliedValue.ofData found = .ok value)
        Config.default.variants (data.entry? Config.fields "variants") config.variants
      ∧ Data.Outcome (fun found value => OutputFormat.ofSettings source found = .ok value)
        Config.default.format (data.entry? Config.fields "output") config.format := by
  refine ⟨Data.outcome_of_toRecord (·.defaults) (fun hset => ?_) (fun hother hset => ?_) h,
    Data.outcome_of_toRecord (·.variants) (fun hset => ?_) (fun hother hset => ?_) h,
    Data.outcome_of_toRecord (·.format) (fun hset => ?_) (fun hother hset => ?_) h⟩
  · obtain ⟨_, hread, rfl⟩ := Data.map_eq_ok_iff.1 hset
    exact hread
  · exact (tables_of_setField hset).1 hother
  · obtain ⟨_, hread, rfl⟩ := Data.map_eq_ok_iff.1 hset
    exact hread
  · exact (tables_of_setField hset).2.1 hother
  · obtain ⟨_, hread, rfl⟩ := Data.map_eq_ok_iff.1 hset
    exact hread
  · exact (tables_of_setField hset).2.2 hother

/-- **A configuration that is read holds what is written**, and what is built
in where nothing is. -/
theorem inForce_of_ofData {source : Data.Format} {data : Data} {config : Config}
    (h : Config.ofData source data = .ok config) (setting : Setting) :
    setting.inForce config = (setting.written? data).or setting.builtIn := by
  obtain ⟨hdefaults, hvariants, hformat⟩ := outcome_tables h
  cases setting with
  | fallback f =>
    refine hdefaults.eq_or (fun defaults => (f.get defaults).map SuppliedValue.text)
      (fun hread => written_of_fallbacks hread f) ?_
    cases f <;> rfl
  | variant name =>
    exact hvariants.eq_or (·.get? name) (fun hread => written_of_variants hread name) rfl
  | format =>
    exact hformat.eq_or (fun format => some (SuppliedValue.text format.name))
      (fun hread => written_of_settings hread) rfl

end Setting

/-! ## Two files -/

namespace Config

/-- **A file says what is written in it**: it can be read, what it holds is
TOML for some data, and the data fits a configuration. -/
structure FileSays (files : Files) (path : String) (data : Data) : Prop where
  readable : ∃ text, files.readText path = .ok text ∧ Toml.parse? text = some data
  fits : ∃ config, ofData .toml data = .ok config

/-- A file that can be loaded says something. -/
theorem exists_fileSays {files : Files} {path : String} (h : (load files path).isOk = true) :
    ∃ data, FileSays files path data
      ∧ (files.readText path).toOption.bind Toml.parse? = some data := by
  unfold load at h
  cases hread : files.readText path with
  | error failure =>
    rw [hread] at h
    cases h
  | ok text =>
    rw [hread] at h
    dsimp only at h
    unfold ofToml Toml.read at h
    cases hparse : Toml.parse? text with
    | none =>
      rw [hparse] at h
      cases h
    | some data =>
      rw [hparse] at h
      dsimp only at h
      cases hfits : ofData .toml data with
      | error error =>
        rw [hfits] at h
        cases h
      | ok config => exact ⟨data, ⟨⟨text, hread, hparse⟩, config, hfits⟩, hparse⟩

/-- A file that says something is a layer that holds what is written. -/
theorem FileSays.inForce_layer {files : Files} {path : String} {data : Data}
    (h : FileSays files path data) (setting : Setting) :
    setting.inForce (layer files path) = (setting.written? data).or setting.builtIn := by
  obtain ⟨⟨text, hread, hparse⟩, config, hfits⟩ := h
  have hpresent : files.present path = true := by
    unfold Files.readText at hread
    unfold Files.present
    cases hlookup : files.lookup path with
    | ok entry => rfl
    | error error =>
      rw [hlookup] at hread
      cases hread
  have hlayer : layer files path = config := by
    rw [layer, if_pos hpresent, load, hread]
    simp only [ofToml, Toml.read, hparse, hfits]
    rfl
  rw [hlayer, Setting.inForce_of_ofData hfits]

/-- **Layers decide setting by setting**, but for the format. -/
theorem inForce_merge (lower upper : Config) {setting : Setting} (h : setting ≠ .format) :
    setting.inForce (lower.merge upper) = (setting.inForce upper).or (setting.inForce lower) := by
  cases setting with
  | fallback f =>
    cases f <;> exact Option.map_or
  | variant name => exact NameMap.get?_overlay lower.variants upper.variants name
  | format => exact absurd rfl h

/-- To lay a format over another, lines count as silence. -/
theorem format_layers {files : Files} {user project : String} :
    (ofFiles files (paths (some user) project)).format
      = if (layer files project).format = .lines then (layer files user).format
        else (layer files project).format := by
  show (if (layer files project).format = .lines then
      (if (layer files user).format = .lines then .lines else (layer files user).format)
    else (layer files project).format) = _
  cases (layer files user).format <;> rfl

/-- The format of two layers is what the project writes, or else the user,
unless the project writes lines and the user JSON. -/
theorem format_layers_iff {lower upper : OutputFormat} {below above : Option SuppliedValue}
    (hlower : some (.text lower.name) = below.or (some (.text "lines")))
    (hupper : some (.text upper.name) = above.or (some (.text "lines"))) :
    some (.text (if upper = .lines then lower else upper).name)
        = (above.or below).or (some (.text "lines"))
      ↔ ¬ (above = some (.text "lines") ∧ below = some (.text "json")) := by
  cases above with
  | none =>
    obtain rfl : upper = .lines := by
      cases upper
      · rfl
      · exact absurd hupper (by decide)
    exact iff_of_true hlower fun h => absurd h.1 (by decide)
  | some value =>
    obtain rfl : SuppliedValue.text upper.name = value := Option.some.inj hupper
    cases upper with
    | json => exact iff_of_true rfl fun h => absurd h.1 (by decide)
    | lines =>
      cases lower with
      | lines =>
        refine iff_of_true rfl fun h => ?_
        rw [h.2] at hlower
        exact absurd hlower (by decide)
      | json =>
        have hdiffer : some (SuppliedValue.text "json") ≠ some (.text "lines") := by decide
        refine iff_of_false hdiffer (not_not_intro ⟨rfl, ?_⟩)
        cases below with
        | none => exact absurd hlower (by decide)
        | some value => exact hlower.symm

/-- **A project's word counts before a user's, and both before what is built
in**, unless the project asks for lines where the user asks for JSON. -/
theorem inForce_layers_iff {files : Files} {user project : String} {userData projectData : Data}
    (huser : FileSays files user userData) (hproject : FileSays files project projectData)
    (setting : Setting) :
    setting.inForce (ofFiles files (paths (some user) project))
        = ((setting.written? projectData).or (setting.written? userData)).or setting.builtIn
      ↔ ¬ (setting = .format ∧ setting.written? projectData = some (.text "lines")
          ∧ setting.written? userData = some (.text "json")) := by
  by_cases hformat : setting = .format
  · subst hformat
    have hlower := huser.inForce_layer .format
    have hupper := hproject.inForce_layer .format
    rw [and_iff_right rfl]
    show some (SuppliedValue.text (ofFiles files (paths (some user) project)).format.name) = _ ↔ _
    rw [format_layers]
    exact format_layers_iff hlower hupper
  · refine iff_of_true ?_ fun h => hformat h.1
    -- the user's layer is laid over nothing, and the project's over that
    show setting.inForce ((default.merge (layer files user)).merge (layer files project)) = _
    have hbuiltIn : setting.builtIn = none ∧ setting.inForce default = none := by
      cases setting with
      | fallback f => cases f <;> exact ⟨rfl, rfl⟩
      | variant name => exact ⟨rfl, rfl⟩
      | format => exact absurd rfl hformat
    rw [inForce_merge _ _ hformat, inForce_merge _ _ hformat, hproject.inForce_layer,
      huser.inForce_layer, hbuiltIn.1, hbuiltIn.2]
    simp only [Option.or_none]

/-- Three files: one that asks for JSON, one that asks for lines, and one that
does not speak of the format. -/
def sampleFiles : Files :=
  .ofList [("json.toml", .ok (.file "[output]\nformat = \"json\"\n".toUTF8)),
    ("lines.toml", .ok (.file "[output]\nformat = \"lines\"\n".toUTF8)),
    ("version.toml", .ok (.file "[defaults]\nversion = \"cr\"\n".toUTF8))]

/-- What one of the files says, as far as it can be loaded. -/
theorem exists_sampleFiles {path : String} {setting : Setting} {written : Option SuppliedValue}
    (hload : (load sampleFiles path).isOk = true)
    (hwritten : ((sampleFiles.readText path).toOption.bind Toml.parse?).map setting.written?
      = some written) :
    ∃ data, FileSays sampleFiles path data ∧ setting.written? data = written := by
  obtain ⟨data, hsays, hdata⟩ := exists_fileSays hload
  rw [hdata] at hwritten
  exact ⟨data, hsays, Option.some.inj hwritten⟩

/-- A project that does not speak of the format leaves it to the user. -/
theorem inForce_version_over_json :
    Setting.format.inForce (ofFiles sampleFiles (paths (some "json.toml") "version.toml"))
      = some (.text "json") := by
  obtain ⟨userData, huser, hjson⟩ : ∃ data, FileSays sampleFiles "json.toml" data
      ∧ Setting.format.written? data = some (.text "json") :=
    exists_sampleFiles (by decide +kernel) (by decide +kernel)
  obtain ⟨projectData, hproject, hsilent⟩ : ∃ data, FileSays sampleFiles "version.toml" data
      ∧ Setting.format.written? data = none :=
    exists_sampleFiles (by decide +kernel) (by decide +kernel)
  have hlayers := inForce_layers_iff huser hproject .format
  rw [hjson, hsilent] at hlayers
  exact hlayers.2 (by decide)

/-- **A project that asks for lines is not heard** over a user who asks for
JSON. -/
theorem inForce_lines_over_json :
    ∃ userData projectData, FileSays sampleFiles "json.toml" userData
      ∧ FileSays sampleFiles "lines.toml" projectData
      ∧ Setting.format.written? userData = some (.text "json")
      ∧ Setting.format.written? projectData = some (.text "lines")
      ∧ Setting.format.inForce (ofFiles sampleFiles (paths (some "json.toml") "lines.toml"))
        = some (.text "json") := by
  obtain ⟨userData, huser, hjson⟩ : ∃ data, FileSays sampleFiles "json.toml" data
      ∧ Setting.format.written? data = some (.text "json") :=
    exists_sampleFiles (by decide +kernel) (by decide +kernel)
  obtain ⟨projectData, hproject, hlines⟩ : ∃ data, FileSays sampleFiles "lines.toml" data
      ∧ Setting.format.written? data = some (.text "lines") :=
    exists_sampleFiles (by decide +kernel) (by decide +kernel)
  exact ⟨userData, projectData, huser, hproject, hjson, hlines, by decide +kernel⟩

end Config

end BuildVariants
