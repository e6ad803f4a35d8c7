import Mathlib.Data.List.Forall2
import BuildVariants.Proofs.Data.Reading
import BuildVariants.Proofs.NameMap

/-!
# Data whose entries come in another order

The entries of a map are written in some order and may be read in another: a
reader of JSON visits them by name, and another program may store them as it
likes. `Data.Rearranged` relates data to the same data with the entries of its
maps, at every depth, in any order. What is read from a record or a map depends
on its look-ups alone, so it does not change with the order
(`readsAs_toNameMap` for maps, `IsField.get_eq` for the fields of records).
-/

namespace BuildVariants.Data

/-- Two entries of one name whose values are related. -/
inductive EntriesRel (related : Data → Data → Prop) : String × Data → String × Data → Prop
  | mk (name : String) {value other : Data} (hvalue : related value other) :
      EntriesRel related (name, value) (name, other)

/-- **Two pieces of data that differ in the order of entries only**, at every
depth. -/
inductive Rearranged : Data → Data → Prop
  | same (data : Data) : Rearranged data data
  | list {items others : List Data} : List.Forall₂ Rearranged items others →
      Rearranged (.list items) (.list others)
  | map {entries between others : List (String × Data)} :
      List.Forall₂ (EntriesRel Rearranged) entries between →
      between.Perm others → Rearranged (.map entries) (.map others)

/-- Data without entries is left as it is. -/
theorem Rearranged.eq_text {text : String} {data : Data} (h : Rearranged (.text text) data) :
    data = .text text := by
  cases h
  rfl

/-- A list is rearranged item by item. -/
theorem Rearranged.exists_list {items : List Data} {data : Data} (h : Rearranged (.list items) data) :
    ∃ others, data = .list others ∧ List.Forall₂ Rearranged items others := by
  cases h with
  | same => exact ⟨items, rfl, List.forall₂_same.2 fun item _ => .same item⟩
  | list hitems => exact ⟨_, rfl, hitems⟩

/-- A text or nothing is left as it is. -/
theorem Rearranged.eq_ofOption {value : Option String} {data : Data}
    (h : Rearranged (.ofOption value) data) : data = .ofOption value := by
  cases value <;> (cases h; rfl)

/-- Texts are left in their order. -/
theorem Rearranged.eq_ofTexts {values : List String} {data : Data}
    (h : Rearranged (.ofTexts values) data) : data = .ofTexts values := by
  obtain ⟨others, rfl, hothers⟩ := h.exists_list
  suffices hsame : others = values.map text from congrArg Data.list hsame
  clear h
  induction values generalizing others with
  | nil =>
    cases hothers
    rfl
  | cons value rest ih =>
    cases hothers with
    | cons hvalue hrest => rw [hvalue.eq_text, ih _ hrest, List.map_cons]

/-! ## Look-ups -/

theorem lookup_rel_of_forall₂ {entries others : List (String × Data)}
    (h : List.Forall₂ (EntriesRel Rearranged) entries others) (name : String) :
    Option.Rel Rearranged (entries.lookup name) (others.lookup name) := by
  induction h with
  | nil => exact .none
  | cons hentry _ ih =>
    obtain ⟨key, hvalue⟩ := hentry
    rw [NameMap.lookup_cons_eq, NameMap.lookup_cons_eq]
    split
    · exact .some hvalue
    · exact ih

/-- Where names occur once, a look-up finds the same in any order. -/
theorem lookup_of_perm {entries others : List (String × Data)} (hperm : entries.Perm others)
    (hnames : (entries.map (·.1)).Nodup) (name : String) :
    others.lookup name = entries.lookup name := by
  induction hperm with
  | nil => rfl
  | @cons entry _ _ _ ih =>
    obtain ⟨key, value⟩ := entry
    rw [List.map_cons, List.nodup_cons] at hnames
    rw [NameMap.lookup_cons_eq, NameMap.lookup_cons_eq, ih hnames.2]
  | swap first second rest =>
    obtain ⟨key, value⟩ := first
    obtain ⟨key', value'⟩ := second
    have hkeys : key' ≠ key := fun heq =>
      (List.nodup_cons.1 hnames).1 (heq ▸ List.mem_cons_self)
    simp only [NameMap.lookup_cons_eq]
    split
    · next hname => rw [if_neg fun hname' => hkeys (hname'.symm.trans hname)]
    · rfl
  | trans hfirst _ ihfirst ihsecond =>
    rw [ihsecond ((hfirst.map (·.1)).nodup_iff.1 hnames), ihfirst hnames]

theorem EntriesRel.names_eq {entries others : List (String × Data)}
    (h : List.Forall₂ (EntriesRel Rearranged) entries others) :
    entries.map (·.1) = others.map (·.1) := by
  induction h with
  | nil => rfl
  | cons hentry _ ih =>
    obtain ⟨name, _⟩ := hentry
    rw [List.map_cons, List.map_cons, ih]

/-- A map is rearranged to a map: entry by entry first, then as a whole. -/
theorem Rearranged.exists_map {entries : List (String × Data)} {data : Data}
    (h : Rearranged (.map entries) data) :
    ∃ between others, data = .map others
      ∧ List.Forall₂ (EntriesRel Rearranged) entries between ∧ between.Perm others := by
  cases h with
  | same =>
    exact ⟨entries, entries, rfl, List.forall₂_same.2 fun entry _ => ⟨entry.1, .same _⟩, .refl _⟩
  | map hentries hperm => exact ⟨_, _, rfl, hentries, hperm⟩

/-- **What a rearranged map has under a name** is what the map has there,
rearranged. -/
theorem Rearranged.entry?_rel {entries : List (String × Data)} {data : Data}
    (h : Rearranged (.map entries) data) (hnames : (entries.map (·.1)).Nodup)
    (fields : List String) (name : String) :
    Option.Rel Rearranged (entries.lookup name) (data.entry? fields name) := by
  obtain ⟨between, others, rfl, hentries, hperm⟩ := h.exists_map
  have hbetween : (between.map (·.1)).Nodup := EntriesRel.names_eq hentries ▸ hnames
  show Option.Rel Rearranged _ (others.reverse.lookup name)
  rw [lookup_of_perm (hperm.trans (List.reverse_perm others).symm) hbetween]
  exact lookup_rel_of_forall₂ hentries name

/-- What a map has under a name, the rearranged map has there, rearranged. -/
theorem Rearranged.exists_entry? {entries : List (String × Data)} {data : Data}
    (h : Rearranged (.map entries) data) (hnames : (entries.map (·.1)).Nodup)
    (fields : List String) (name : String) {value : Data}
    (hvalue : entries.lookup name = some value) :
    ∃ found, data.entry? fields name = some found ∧ Rearranged value found := by
  have hrel := h.entry?_rel hnames fields name
  rw [hvalue] at hrel
  generalize data.entry? fields name = entry at hrel
  cases hrel with
  | some hfound => exact ⟨_, rfl, hfound⟩

/-- A map with one entry is rearranged in it. -/
theorem Rearranged.exists_single {name : String} {value : Data} {data : Data}
    (h : Rearranged (.map [(name, value)]) data) :
    ∃ found, data = .map [(name, found)] ∧ Rearranged value found := by
  obtain ⟨between, others, rfl, hentries, hperm⟩ := h.exists_map
  cases hentries with
  | cons hentry hrest =>
    cases hentry with
    | mk _ hvalue =>
      cases hrest
      exact ⟨_, congrArg Data.map (List.singleton_perm.1 hperm).symm, hvalue⟩

theorem exists_mem_of_forall₂ {entries others : List (String × Data)} {entry : String × Data}
    (h : List.Forall₂ (EntriesRel Rearranged) entries others) (hmem : entry ∈ others) :
    ∃ value, (entry.1, value) ∈ entries ∧ Rearranged value entry.2 := by
  induction h with
  | nil => cases hmem
  | cons hfirst _ ih =>
    rcases List.mem_cons.1 hmem with rfl | hrest
    · obtain ⟨name, hvalue⟩ := hfirst
      exact ⟨_, List.mem_cons_self, hvalue⟩
    · obtain ⟨value, hvalue, hrel⟩ := ih hrest
      exact ⟨value, List.mem_cons_of_mem _ hvalue, hrel⟩

/-- Every entry of a rearranged map is one of the map, rearranged. -/
theorem Rearranged.exists_entry {entries others : List (String × Data)}
    (h : Rearranged (.map entries) (.map others)) {entry : String × Data}
    (hentry : entry ∈ others) :
    ∃ value, (entry.1, value) ∈ entries ∧ Rearranged value entry.2 := by
  obtain ⟨between, others, hothers, hentries, hperm⟩ := h.exists_map
  obtain rfl := Data.map.inj hothers
  exact exists_mem_of_forall₂ hentries (hperm.mem_iff.2 hentry)

/-! ## Reading -/

section Reading

variable {σ : Type} {step : σ → String × Data → Except Error σ}

/-- Entries that can be read from any state can be read one after the other. -/
theorem exists_foldlM {entries : List (String × Data)}
    (h : ∀ entry ∈ entries, ∀ before, ∃ after, step before entry = .ok after) (start : σ) :
    ∃ result, entries.foldlM step start = .ok result := by
  induction entries generalizing start with
  | nil => exact ⟨start, rfl⟩
  | cons entry rest ih =>
    obtain ⟨hentry, hrest⟩ := List.forall_mem_cons.1 h
    obtain ⟨next, hnext⟩ := hentry start
    obtain ⟨result, hresult⟩ := ih hrest next
    refine ⟨result, ?_⟩
    rw [List.foldlM_cons, hnext]
    exact hresult

/-- **Entries can be read exactly if each of them can**, where that does not depend on
what has been read before. -/
theorem exists_foldlM_iff {fits : String × Data → Prop}
    (hstep : ∀ before entry, (∃ after, step before entry = .ok after) ↔ fits entry)
    {entries : List (String × Data)} {start : σ} :
    (∃ result, entries.foldlM step start = .ok result) ↔ ∀ entry ∈ entries, fits entry := by
  refine ⟨fun h => ?_, fun h => exists_foldlM (fun entry hentry before =>
    (hstep before entry).2 (h entry hentry)) start⟩
  induction entries generalizing start with
  | nil => exact List.forall_mem_nil _
  | cons entry rest ih =>
    rw [List.foldlM_cons] at h
    cases hfirst : step start entry with
    | error error =>
      rw [hfirst] at h
      obtain ⟨_, h⟩ := h
      cases h
    | ok next =>
      rw [hfirst] at h
      exact List.forall_mem_cons.2 ⟨(hstep start entry).1 ⟨next, hfirst⟩, ih h⟩

end Reading

section Record

variable {α γ : Type} {set : String → Data → α → Except Error α} {name : String}

/-- **A field of a record**: the entries of its name set it to what they are
read as, and no other entry changes it. -/
structure IsField (set : String → Data → α → Except Error α) (name : String) (get : α → γ)
    (read : Data → Except Error γ) : Prop where
  reads : ∀ {found value}, read found = .ok value → ∀ before, ∃ after,
    set name found before = .ok after
  hit : ∀ {found before after}, set name found before = .ok after → read found = .ok (get after)
  miss : ∀ {other found before after}, other ≠ name → set other found before = .ok after →
    get after = get before

/-- A field that is set to what it is read as is a field. -/
theorem IsField.of_map {get : α → γ} {read : Data → Except Error γ} {put : α → γ → α}
    (hset : ∀ found before, set name found before = (read found).map (put before))
    (hget : ∀ before value, get (put before value) = value)
    (miss : ∀ {other found before after}, other ≠ name → set other found before = .ok after →
      get after = get before) : IsField set name get read where
  reads hread before := ⟨_, (hset _ _).trans (map_eq_ok_iff.2 ⟨_, hread, rfl⟩)⟩
  hit h := by
    obtain ⟨value, hread, rfl⟩ := map_eq_ok_iff.1 ((hset _ _).symm.trans h)
    rw [hget, hread]
  miss := miss

/-- Data, in any order of its entries, is read as a value. -/
def ReadsAs (read : Data → Except Error γ) (value : Data) (wanted : γ) : Prop :=
  ∀ found, Rearranged value found → read found = .ok wanted

variable {format : Format} {record : String} {fields : List String} {start result : α}
  {written : List (String × Data)} {data : Data}

/-- A record can be read if each of its entries can be. -/
theorem exists_toRecord_of_rearranged (h : Rearranged (.map written) data)
    (hset : ∀ entry ∈ written, ∀ found, Rearranged entry.2 found → ∀ before, ∃ after,
      set entry.1 found before = .ok after) :
    ∃ result, toRecord format record fields set start data = .ok result := by
  obtain ⟨_, others, rfl, -⟩ := h.exists_map
  refine exists_foldlM (fun entry hentry before => ?_) start
  obtain ⟨value, hvalue, hrel⟩ := h.exists_entry hentry
  exact hset _ hvalue _ hrel before

/-- **A field is read in any order of the entries.** It is what its entry is
read as, or what it was from the start if it is not written. -/
theorem IsField.get_eq {get : α → γ} {read : Data → Except Error γ}
    (hfield : IsField set name get read) (h : Rearranged (.map written) data)
    (hnames : (written.map (·.1)).Nodup)
    (hresult : toRecord format record fields set start data = .ok result) {wanted : γ}
    (hwanted : Outcome (ReadsAs read) (get start) (written.lookup name) wanted) :
    get result = wanted := by
  have houtcome : Outcome (fun found value => read found = .ok value) (get start)
      (data.entry? fields name) (get result) :=
    outcome_of_toRecord get hfield.hit hfield.miss hresult
  have hrel := h.entry?_rel hnames fields name
  cases hlookup : written.lookup name with
  | none =>
    rw [hlookup] at hrel hwanted
    generalize data.entry? fields name = entry at hrel houtcome
    cases hrel
    exact Eq.trans houtcome hwanted.symm
  | some value =>
    rw [hlookup] at hrel hwanted
    generalize data.entry? fields name = entry at hrel houtcome
    cases hrel with
    | some hvalue => exact Except.ok.inj (Eq.trans (Eq.symm houtcome) (hwanted _ hvalue))

end Record

/-- **A map is read in any order of its entries.** -/
theorem readsAs_toNameMap {α : Type} {read : Data → Except Error α} {write : α → Data}
    (hread : ∀ value, ReadsAs read (write value) value) (m : NameMap α) :
    ReadsAs (toNameMap read) (.map (m.map fun _ value => write value).entries) m := by
  intro data h
  have hlookup := h.entry?_rel (NameMap.nodup_names _) []
  obtain ⟨_, others, rfl, -⟩ := h.exists_map
  obtain ⟨result, hresult⟩ : ∃ result, toNameMap read (.map others) = .ok result := by
    refine exists_foldlM (fun entry hentry before => ?_) _
    obtain ⟨value, hmem, hvalue⟩ := h.exists_entry hentry
    obtain ⟨original, _, rfl⟩ := NameMap.exists_of_mem_entries_map hmem
    exact ⟨_, by rw [hread _ _ hvalue]; rfl⟩
  rw [hresult]
  refine congrArg Except.ok (NameMap.ext_get? fun name => ?_)
  have houtcome := outcome_of_toNameMap hresult name
  have hrel := hlookup name
  rw [show List.lookup name _ = _ from NameMap.get?_map (fun _ value => write value) m name] at hrel
  generalize entry? [] name (.map others) = found at houtcome hrel
  cases hget : m.get? name with
  | none =>
    rw [hget] at hrel
    cases hrel
    exact houtcome
  | some value =>
    rw [hget] at hrel
    cases hrel with
    | some hvalue =>
      obtain ⟨v, hv, hresult⟩ := houtcome
      rw [hread _ _ hvalue] at hv
      rw [hresult, Except.ok.inj hv]

end BuildVariants.Data
