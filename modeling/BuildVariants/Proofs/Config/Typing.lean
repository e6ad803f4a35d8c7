import BuildVariants.Proofs.Config.Layers
import BuildVariants.Proofs.Data.Arrangement
import BuildVariants.Proofs.Domain.Integer

/-!
# What may be written in a configuration

Each setting has a type: fallbacks are texts, a variant is a truth value, a 64-bit
integer or a text, and the format is one of two names. The settings stand in tables,
and what else is in a file is skipped. Here this is said of the data that is written
(`Setting.Admits`, `Setting.FitsIn`), without the functions that read it, and what is
written can be read exactly if it is so (`Config.exists_ofData_iff`). One value of a
wrong type, wherever it stands, is enough for all of it to be refused.

Some things may be written in more than one way. The tables of fallbacks and of output
settings may also be lists, whose items are the fields in their order; the table of
variants may not, since its fields have no order. A format may also be a table whose
only entry has its name and holds nothing. A date is a map with one entry
(`Data.date`), so that it is taken for a table in the place of any of the three; a
setting does not admit it.
-/

namespace BuildVariants

/-! ## Records and maps -/

namespace Data

/-- Data that can stand for a record: a map, or the list of its fields. -/
def IsRecord : Data → Prop
  | .map _ | .list _ => True
  | _ => False

/-- Data that is a map. -/
def IsMap : Data → Prop
  | .map _ => True
  | _ => False

/-- From TOML, a record is read from its entries, however it is written. -/
theorem toRecord_eq {α : Type} {record : String} {fields : List String}
    {set : String → Data → α → Except Error α} {start : α} {data : Data} (h : data.IsRecord) :
    toRecord .toml record fields set start data
      = (data.entries fields).foldlM (fun soFar entry => set entry.1 entry.2 soFar) start := by
  cases data with
  | map written => rfl
  | list items =>
    rw [toRecord, entries]
    cases (fields.zip items).foldlM (fun soFar entry => set entry.1 entry.2 soFar) start <;> rfl
  | null | bool | int | real | text => exact absurd h id

/-- A record can be read exactly if each of its entries can. -/
theorem exists_toRecord_iff {α : Type} {record : String} {fields : List String}
    {set : String → Data → α → Except Error α} {start : α} {data : Data}
    {fits : String × Data → Prop}
    (hset : ∀ before entry, (∃ after, set entry.1 entry.2 before = .ok after) ↔ fits entry) :
    (∃ result, toRecord .toml record fields set start data = .ok result)
      ↔ data.IsRecord ∧ ∀ entry ∈ data.entries fields, fits entry := by
  by_cases h : data.IsRecord
  · rw [toRecord_eq h, and_iff_right h]
    exact exists_foldlM_iff hset
  · refine iff_of_false (fun ⟨_, hread⟩ => ?_) fun hrecord => h hrecord.1
    cases data with
    | map | list => exact h trivial
    | null | bool | int | real | text => cases hread

/-- A map can be read exactly if each of its values can. -/
theorem exists_toNameMap_iff {α : Type} {read : Data → Except Error α} {data : Data} :
    (∃ m, toNameMap read data = .ok m)
      ↔ data.IsMap ∧ ∀ entry ∈ data.entries [], ∃ value, read entry.2 = .ok value := by
  cases data with
  | map entries =>
    exact (exists_foldlM_iff fun _ _ => exists_map_eq_ok_iff).trans (and_iff_right trivial).symm
  | list | null | bool | int | real | text =>
    exact iff_of_false (fun ⟨_, h⟩ => by cases h) (·.1)

end Data

/-! ## Settings -/

namespace Setting

/-- **What may be written for a setting.** Null says nothing of a fallback. -/
def Admits : Setting → Data → Prop
  | fallback _, found => (∃ value, found = .text value) ∨ found = .null
  | variant _, found =>
    (∃ value, found = .bool value) ∨ (∃ value : Int64, found = .int value.toInt)
      ∨ ∃ value, found = .text value
  | format, found => ∃ format : OutputFormat, found = .text format.name
    ∨ ∃ nothing ∈ [Data.map [], .list []], found = .map [(format.name, nothing)]

/-- What can be the table of a setting. -/
def IsTable : Setting → Data → Prop
  | variant _, found => found.IsMap
  | fallback _, found => found.IsRecord
  | format, found => found.IsRecord

/-- **What a setting may stand in**: a table in which all that is written under its
name is such as may be written for it. -/
structure FitsIn (setting : Setting) (table : Data) : Prop where
  isTable : setting.IsTable table
  admits : ∀ value, (setting.key, value) ∈ table.entries setting.fields → setting.Admits value

end Setting

/-- An optional text is a text or nothing. -/
theorem Data.exists_toOption_toText_iff {found : Data} :
    (∃ value, Data.toOption Data.toText found = .ok value)
      ↔ (∃ value, found = .text value) ∨ found = .null := by
  cases found with
  | text value => exact iff_of_true ⟨_, rfl⟩ (.inl ⟨value, rfl⟩)
  | null => exact iff_of_true ⟨_, rfl⟩ (.inr rfl)
  | bool | int | real | list | map =>
    refine iff_of_false (fun ⟨_, h⟩ => by cases h) ?_
    rintro (⟨_, h⟩ | h) <;> cases h

/-- A supplied value is read from its data only. -/
theorem SuppliedValue.ofData_eq_ok_iff {found : Data} {value : SuppliedValue} :
    ofData found = .ok value ↔ found = value.toData := by
  refine ⟨fun h => ?_, fun h => h ▸ ofData_toData value⟩
  cases found with
  | bool | text =>
    obtain rfl := Except.ok.inj h
    rfl
  | int n =>
    rw [ofData] at h
    split at h
    · next word hword =>
      obtain rfl := Except.ok.inj h
      rw [toData, Text.Numeral.toWord?_eq_some_iff.1 hword]
    · cases h
  | null | real | list | map => cases h

/-- A supplied value is a truth value, a 64-bit integer or a text. -/
theorem SuppliedValue.exists_ofData_iff {found : Data} (name : String) :
    (∃ value, ofData found = .ok value) ↔ (Setting.variant name).Admits found := by
  simp only [ofData_eq_ok_iff]
  constructor
  · rintro ⟨value, rfl⟩
    cases value with
    | bool value => exact .inl ⟨value, rfl⟩
    | int value => exact .inr (.inl ⟨value, rfl⟩)
    | text value => exact .inr (.inr ⟨value, rfl⟩)
  · rintro (⟨value, rfl⟩ | ⟨value, rfl⟩ | ⟨value, rfl⟩)
    · exact ⟨.bool value, rfl⟩
    · exact ⟨.int value, rfl⟩
    · exact ⟨.text value, rfl⟩

/-- In TOML, a choice is a text or the only entry of a table, with an empty table or
list in it. -/
theorem Data.chooses_toml_iff {name : String} {found : Data} :
    Chooses .toml name found ↔ found = .text name
      ∨ ∃ nothing ∈ [Data.map [], .list []], found = .map [(name, nothing)] := by
  constructor
  · rintro (_ | @⟨value, hbare⟩)
    · exact .inl rfl
    · refine .inr ⟨value, ?_, rfl⟩
      unfold isBare at hbare
      split at hbare <;> simp_all
  · rintro (rfl | ⟨nothing, hnothing, rfl⟩)
    · exact .text
    · refine .map ?_
      rcases List.mem_pair.1 hnothing with rfl | rfl <;> rfl

/-- A format is read from its name only. -/
theorem OutputFormat.exists_ofData_iff {found : Data} :
    (∃ format, ofData .toml found = .ok format) ↔ Setting.format.Admits found := by
  simp only [ofData, Data.toChoice_eq_ok_iff, ofName?_eq_some_iff, Data.chooses_toml_iff]
  exact exists_congr fun _ => exists_eq_left'

/-- A field can be taken into the fallbacks exactly if it admits what is written. -/
theorem SpecDefaults.exists_setField_iff {name : String} {found : Data} {before : SpecDefaults} :
    (∃ after, setField name found before = .ok after)
      ↔ ∀ fallback : Fallback, fallback.key = name → (Setting.fallback fallback).Admits found := by
  by_cases hname : ∃ fallback : Fallback, fallback.key = name
  · obtain ⟨fallback, rfl⟩ := hname
    have hread : (∃ after, setField fallback.key found before = .ok after)
        ↔ ∃ value, Data.toOption Data.toText found = .ok value := by
      cases fallback <;> exact Data.exists_map_eq_ok_iff
    rw [hread, Data.exists_toOption_toText_iff]
    exact ⟨fun h _ _ => h, fun h => h fallback rfl⟩
  · refine iff_of_true ⟨before, ?_⟩ fun fallback h => absurd ⟨fallback, h⟩ hname
    rw [setField, if_neg fun h => hname ⟨.compiler, h.symm⟩, if_neg fun h => hname ⟨.buildType, h.symm⟩,
      if_neg fun h => hname ⟨.version, h.symm⟩, if_neg fun h => hname ⟨.target, h.symm⟩]

/-! ## Tables -/

/-- The fallbacks can be read exactly from a table that each of them fits in. -/
theorem SpecDefaults.exists_ofData_iff {table : Data} :
    (∃ defaults, ofData .toml table = .ok defaults)
      ↔ ∀ fallback : Fallback, (Setting.fallback fallback).FitsIn table := by
  refine (Data.exists_toRecord_iff fun _ _ => exists_setField_iff).trans ⟨fun h fallback => ?_,
    fun h => ⟨(h .compiler).isTable, fun entry hentry fallback hkey => ?_⟩⟩
  · exact ⟨h.1, fun value hvalue => h.2 _ hvalue fallback rfl⟩
  · obtain ⟨name, value⟩ := entry
    obtain rfl : fallback.key = name := hkey
    exact (h fallback).admits value hentry

/-- The variants can be read exactly from a table that each of them fits in. -/
theorem exists_variants_iff {table : Data} :
    (∃ variants, Data.toNameMap SuppliedValue.ofData table = .ok variants)
      ↔ ∀ name, (Setting.variant name).FitsIn table := by
  refine Data.exists_toNameMap_iff.trans ⟨fun h name => ?_,
    fun h => ⟨(h "").isTable, fun entry hentry => ?_⟩⟩
  · exact ⟨h.1, fun value hvalue => (SuppliedValue.exists_ofData_iff name).1 (h.2 _ hvalue)⟩
  · exact (SuppliedValue.exists_ofData_iff entry.1).2 ((h entry.1).admits entry.2 hentry)

/-- The output settings can be read exactly from a table that the format fits in. -/
theorem OutputFormat.exists_ofSettings_iff {table : Data} :
    (∃ format, ofSettings .toml table = .ok format) ↔ Setting.format.FitsIn table := by
  have hset : ∀ (before : OutputFormat) (entry : String × Data),
      (∃ after, setField .toml entry.1 entry.2 before = .ok after)
        ↔ (entry.1 = "format" → Setting.format.Admits entry.2) := by
    intro before entry
    rw [setField]
    split
    · next hname => exact exists_ofData_iff.trans ⟨fun h _ => h, fun h => h hname⟩
    · next hname => exact iff_of_true ⟨before, rfl⟩ fun h => absurd h hname
  refine (Data.exists_toRecord_iff hset).trans ⟨fun h => ?_,
    fun h => ⟨h.isTable, fun entry hentry hname => ?_⟩⟩
  · exact ⟨h.1, fun value hvalue => h.2 _ hvalue rfl⟩
  · obtain ⟨name, value⟩ := entry
    obtain rfl : name = "format" := hname
    exact h.admits value hentry

namespace Config

/-- A table can be taken into a configuration exactly if its settings fit in it. -/
theorem exists_setField_iff {name : String} {found : Data} {before : Config} :
    (∃ after, setField .toml name found before = .ok after)
      ↔ ∀ setting : Setting, setting.table = name → setting.FitsIn found := by
  by_cases hname : ∃ setting : Setting, setting.table = name
  · obtain ⟨setting, rfl⟩ := hname
    cases setting with
    | fallback f =>
      refine Data.exists_map_eq_ok_iff.trans (SpecDefaults.exists_ofData_iff.trans
        ⟨fun h setting htable => ?_, fun h fallback => h (.fallback fallback) rfl⟩)
      cases setting with
      | fallback f => exact h f
      | variant | format => exact absurd htable (by simp [Setting.table])
    | variant name =>
      refine Data.exists_map_eq_ok_iff.trans (exists_variants_iff.trans
        ⟨fun h setting htable => ?_, fun h name => h (.variant name) rfl⟩)
      cases setting with
      | variant name => exact h name
      | fallback | format => exact absurd htable (by simp [Setting.table])
    | format =>
      refine Data.exists_map_eq_ok_iff.trans (OutputFormat.exists_ofSettings_iff.trans
        ⟨fun h setting htable => ?_, fun h => h .format rfl⟩)
      cases setting with
      | format => exact h
      | fallback | variant => exact absurd htable (by simp [Setting.table])
  · refine iff_of_true ⟨before, ?_⟩ fun setting h => absurd ⟨setting, h⟩ hname
    rw [setField, if_neg fun h => hname ⟨.fallback .compiler, h.symm⟩,
      if_neg fun h => hname ⟨.variant "", h.symm⟩, if_neg fun h => hname ⟨.format, h.symm⟩]

/-- **A configuration can be read exactly from data of the right types.** -/
theorem exists_ofData_iff {data : Data} :
    (∃ config, ofData .toml data = .ok config)
      ↔ data.IsRecord ∧ ∀ (setting : Setting) (table : Data),
        (setting.table, table) ∈ data.entries fields → setting.FitsIn table := by
  refine (Data.exists_toRecord_iff fun _ _ => exists_setField_iff).trans
    (and_congr_right fun _ => ⟨fun h setting table htable => ?_,
      fun h entry hentry setting hname => ?_⟩)
  · exact h _ htable setting rfl
  · obtain ⟨name, table⟩ := entry
    obtain rfl : setting.table = name := hname
    exact h setting table hentry

end Config

end BuildVariants
