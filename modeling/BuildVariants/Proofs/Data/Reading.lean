import BuildVariants.Data.Reading

/-!
# What is read from a record

A record is read entry by entry into what has been read so far, so of several
entries under one name the last one counts (`outcome_foldlM`). What an entry is
read as is left open: it is any relation that the step for the name
establishes, and that the steps for other names leave alone. Of the entries
themselves only choices among names are looked at here (`toChoice_eq_ok_iff`).
-/

namespace BuildVariants.Data

theorem map_eq_ok_iff {ε α β : Type} {result : Except ε α} {f : α → β} {value : β} :
    result.map f = .ok value ↔ ∃ a, result = .ok a ∧ f a = value := by
  cases result with
  | error error => exact iff_of_false (fun h => by cases h) fun ⟨_, h, _⟩ => by cases h
  | ok a =>
    refine ⟨fun h => ⟨a, rfl, Except.ok.inj h⟩, ?_⟩
    rintro ⟨_, ⟨⟩, rfl⟩
    rfl

theorem exists_map_eq_ok_iff {ε α β : Type} {result : Except ε α} {f : α → β} :
    (∃ value, result.map f = .ok value) ↔ ∃ a, result = .ok a := by
  simp only [map_eq_ok_iff]
  exact ⟨fun ⟨_, a, h, _⟩ => ⟨a, h⟩, fun ⟨a, h⟩ => ⟨f a, a, h, rfl⟩⟩

/-! ## Choices -/

section Choice

variable {α : Type} {format : Format} {names : List String} {ofName? : String → Option α}
  {choice : α}

/-- **The two ways to write a choice of a name**: as a text, or as the name of a map's
only entry, which says nothing. -/
inductive Chooses (format : Format) (name : String) : Data → Prop
  | text : Chooses format name (.text name)
  | map {value : Data} (bare : isBare format value = true) :
    Chooses format name (.map [(name, value)])

/-- A choice is that of its name. -/
theorem chooseName_eq_ok_iff {name : String} :
    chooseName names ofName? name = .ok choice ↔ ofName? name = some choice := by
  unfold chooseName
  cases ofName? name <;> simp

/-- What says nothing under a name of TOML is not what a date has there. -/
theorem isDate_eq_false_of_isBare {name : String} {value : Data} (h : isBare .toml value = true) :
    isDate (.map [(name, value)]) = false := by
  cases value <;> first | rfl | cases h

/-- **What is read as a choice** is a choice of its name, written in one of the two
ways. -/
theorem toChoice_eq_ok_iff {found : Data} :
    toChoice format names ofName? found = .ok choice
      ↔ ∃ name, ofName? name = some choice ∧ Chooses format name found := by
  constructor
  · intro h
    unfold toChoice at h
    split at h
    · next name => exact ⟨name, chooseName_eq_ok_iff.1 h, .text⟩
    · split at h
      · cases h
      · split at h
        · next name value _ =>
          cases hname : chooseName names ofName? name with
          | error error =>
            rw [hname] at h
            cases h
          | ok chosen =>
            rw [hname] at h
            change (if _ then Except.ok chosen else _) = _ at h
            split at h
            · next hbare =>
              obtain rfl := Except.ok.inj h
              exact ⟨name, chooseName_eq_ok_iff.1 hname, .map hbare⟩
            · cases h
        · cases h
    · cases h
  · rintro ⟨name, hname, h⟩
    have hchoice : chooseName names ofName? name = .ok choice := chooseName_eq_ok_iff.2 hname
    cases h with
    | text => exact hchoice
    | @map value hbare =>
      have hdate : ¬ (format = .toml ∧ isDate (.map [(name, value)]) = true) := by
        rintro ⟨rfl, hdate⟩
        rw [isDate_eq_false_of_isBare hbare] at hdate
        cases hdate
      rw [toChoice, if_neg hdate]
      simp only [hchoice, bind, Except.bind, hbare, if_true]

end Choice

/-! ## The entries of a record -/

/-- The entries of a record: those of a map, or the items of a list under the
names of the fields. -/
def entries (fields : List String) : Data → List (String × Data)
  | .map entries => entries
  | .list items => fields.zip items
  | _ => []

/-- **What a record has under a name**, which is in the last entry of the
name. -/
def entry? (fields : List String) (name : String) (data : Data) : Option Data :=
  (data.entries fields).reverse.lookup name

/-- What comes of a name: what its last entry is read as, or what was there
from the start. -/
def Outcome {γ : Type} (reads : Data → γ → Prop) (start : γ) : Option Data → γ → Prop
  | some found, value => reads found value
  | none, value => value = start

/-- **What is shown of an outcome** is what the entry shows, or what is shown
from the start. -/
theorem Outcome.eq_or {β γ : Type} {reads : Data → γ → Prop} {start value : γ}
    {entry : Option Data} (h : Outcome reads start entry value) (shown : γ → Option β)
    {ofEntry : Data → Option β} {ofStart : Option β}
    (hreads : ∀ {found}, reads found value → shown value = (ofEntry found).or ofStart)
    (hstart : shown start = ofStart) : shown value = (entry.bind ofEntry).or ofStart := by
  cases entry with
  | none =>
    have hsame : value = start := h
    rw [hsame, hstart]
    rfl
  | some found => exact hreads h

section Fold

variable {σ γ : Type} {step : σ → String × Data → Except Error σ} {reads : Data → γ → Prop}
  {name : String}

/-- **The last entry of a name is what is read under it.** A part of what is
read comes from the last entry of a name if each entry of the name sets it and
no other entry does; without an entry of the name it is as it was. -/
theorem outcome_foldlM (get : σ → γ)
    (hit : ∀ {before found after}, step before (name, found) = .ok after →
      reads found (get after))
    (miss : ∀ {before other found after}, other ≠ name →
      step before (other, found) = .ok after → get after = get before)
    {entries : List (String × Data)} {start result : σ}
    (h : entries.foldlM step start = .ok result) :
    Outcome reads (get start) (entries.reverse.lookup name) (get result) := by
  induction entries generalizing start with
  | nil =>
    obtain rfl := Except.ok.inj h
    rfl
  | cons entry rest ih =>
    obtain ⟨other, data⟩ := entry
    rw [List.foldlM_cons] at h
    cases hstep : step start (other, data) with
    | error error =>
      rw [hstep] at h
      cases h
    | ok next =>
      rw [hstep] at h
      have hlast := ih h
      rw [List.reverse_cons, List.lookup_append]
      cases hrest : rest.reverse.lookup name with
      | some found =>
        rw [hrest] at hlast
        exact hlast
      | none =>
        rw [hrest] at hlast
        rw [Option.none_or, NameMap.lookup_cons_eq]
        -- nothing behind this entry sets the part, so what it leaves counts
        have heq : get result = get next := hlast
        rw [heq]
        by_cases hname : name = other
        · subst hname
          rw [if_pos rfl]
          exact hit hstep
        · rw [if_neg hname]
          exact miss (Ne.symm hname) hstep

end Fold

/-! ## Records and maps -/

/-- What a record has under a name is in its last entry of the name. -/
theorem outcome_of_toRecord {α γ : Type} {format : Format} {record name : String}
    {fields : List String} {set : String → Data → α → Except Error α} {reads : Data → γ → Prop}
    (get : α → γ)
    (hit : ∀ {before found after}, set name found before = .ok after → reads found (get after))
    (miss : ∀ {before other found after}, other ≠ name →
      set other found before = .ok after → get after = get before)
    {start result : α} {data : Data}
    (h : toRecord format record fields set start data = .ok result) :
    Outcome reads (get start) (data.entry? fields name) (get result) := by
  suffices hfold : (data.entries fields).foldlM (fun so_far entry => set entry.1 entry.2 so_far)
      start = .ok result from outcome_foldlM get hit miss hfold
  unfold toRecord at h
  split at h
  · exact h
  · next items =>
    cases hitems : (fields.zip items).foldlM (fun so_far entry => set entry.1 entry.2 so_far)
        start with
    | error error =>
      rw [hitems] at h
      cases h
    | ok all =>
      rw [hitems] at h
      change (if _ then _ else _) = _ at h
      split at h
      · cases h
      · rw [← h]
        exact hitems
  · cases h

/-- What a map has under a name is in its last entry of the name. -/
theorem outcome_of_toNameMap {α : Type} {read : Data → Except Error α} {data : Data}
    {m : NameMap α} (h : toNameMap read data = .ok m) (name : String) :
    Outcome (fun found value => ∃ v, read found = .ok v ∧ value = some v) none
      (data.entry? [] name) (m.get? name) := by
  unfold toNameMap at h
  split at h
  · have hget : (NameMap.empty : NameMap α).get? name = none := NameMap.get?_empty name
    rw [← hget]
    refine outcome_foldlM (fun m => m.get? name) (fun hstep => ?_) (fun hother hstep => ?_) h
    · obtain ⟨v, hread, rfl⟩ := map_eq_ok_iff.1 hstep
      exact ⟨v, hread, by rw [NameMap.get?_insert, if_pos rfl]⟩
    · obtain ⟨v, hread, rfl⟩ := map_eq_ok_iff.1 hstep
      rw [NameMap.get?_insert, if_neg (Ne.symm hother)]
  · cases h

end BuildVariants.Data
