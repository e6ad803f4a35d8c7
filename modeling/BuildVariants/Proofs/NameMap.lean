import BuildVariants.NameMap
import BuildVariants.Proofs.Text.ByteOrder

/-!
# The first entry of a map with a property

Checks over a map go through its entries and stop at the first one that fails.
Which one that is does not depend on how the map was built: it is the entry
with the property whose name comes first in the order of the bytes
(`NameMap.First`). Stopping there is stated once for the entries of a list
(`NameMap.exists_split_iff_exists_first`), and the two ways to go through a
map, replacing the values (`traverse_eq_error_iff`) and looking for a failure
(`findSome?_entries_eq_some_iff`), are cases of it.
-/

namespace BuildVariants.NameMap

variable {α β ε : Type}

/-! ## Entries and look-ups -/

theorem mem_of_lookup_eq_some {entries : List (String × α)} {name : String} {value : α}
    (h : entries.lookup name = some value) : (name, value) ∈ entries := by
  induction entries with
  | nil => simp at h
  | cons entry rest ih =>
    obtain ⟨n, v⟩ := entry
    rw [lookup_cons_eq] at h
    split at h
    · next heq =>
      subst heq
      rw [Option.some.inj h]
      exact List.mem_cons_self
    · exact List.mem_cons_of_mem _ (ih h)

/-- **The entries of a map are its look-ups.** -/
theorem mem_entries_iff {m : NameMap α} {name : String} {value : α} :
    (name, value) ∈ m.entries ↔ m.get? name = some value := by
  refine ⟨fun hmem => ?_, mem_of_lookup_eq_some⟩
  obtain ⟨before, after, hsplit⟩ := List.append_of_mem hmem
  have hsorted := m.sorted
  rw [hsplit, List.pairwise_append] at hsorted
  have hbefore : before.lookup name = none :=
    List.lookup_eq_none_iff.2 fun entry hentry => by
      have hlt : entry.1 < name := hsorted.2.2 entry hentry _ List.mem_cons_self
      exact bne_iff_ne.2 fun heq => absurd (heq ▸ hlt) (String.lt_irrefl _)
  rw [get?, hsplit, List.lookup_append, hbefore, lookup_cons_eq, if_pos rfl]
  rfl

/-- The entries of a mapped map are those of the map, mapped. -/
theorem exists_of_mem_entries_map {m : NameMap α} {f : String → α → β} {name : String} {value : β}
    (h : (name, value) ∈ (m.map f).entries) :
    ∃ original, m.get? name = some original ∧ f name original = value :=
  Option.map_eq_some_iff.1 (get?_map f m name ▸ mem_entries_iff.1 h)

/-- The names of a map are those that are bound. -/
theorem mem_names_iff {m : NameMap α} {name : String} :
    name ∈ m.names ↔ ∃ value, m.get? name = some value := by
  rw [names, List.mem_map]
  constructor
  · rintro ⟨⟨n, value⟩, hmem, rfl⟩
    exact ⟨value, mem_entries_iff.1 hmem⟩
  · rintro ⟨value, hget⟩
    exact ⟨(name, value), mem_entries_iff.2 hget, rfl⟩

/-- An insertion binds one more name. -/
theorem mem_names_insert {m : NameMap α} {name other : String} {value : α} :
    other ∈ (m.insert name value).names ↔ other = name ∨ other ∈ m.names := by
  rw [mem_names_iff, mem_names_iff, get?_insert]
  by_cases h : other = name
  · rw [if_pos h]
    exact iff_of_true ⟨value, rfl⟩ (.inl h)
  · rw [if_neg h]
    exact (or_iff_right h).symm

/-- What stands before an entry has smaller names, and what stands behind it
has greater ones. -/
theorem get?_lt_iff_mem {m : NameMap α} {before after : List (String × α)} {name : String}
    {value : α} (hsplit : m.entries = before ++ (name, value) :: after) {other : String} {v : α} :
    (m.get? other = some v ∧ other < name) ↔ (other, v) ∈ before := by
  have hsorted := m.sorted
  rw [hsplit, List.pairwise_append] at hsorted
  obtain ⟨_, hafter, hbefore⟩ := hsorted
  rw [← mem_entries_iff, hsplit, List.mem_append, List.mem_cons]
  constructor
  · rintro ⟨hmem | heq | hmem, hlt⟩
    · exact hmem
    · exact absurd ((Prod.mk.inj heq).1 ▸ hlt) (String.lt_irrefl _)
    · exact absurd (String.lt_trans hlt ((List.pairwise_cons.1 hafter).1 _ hmem))
        (String.lt_irrefl _)
  · intro hmem
    exact ⟨.inl hmem, hbefore _ hmem _ List.mem_cons_self⟩

/-! ## The first entry with a property -/

/-- **The first entry of a map with a property**: the entry has it, and no
entry whose name has smaller bytes does. -/
structure First (m : NameMap α) (p : String → α → Prop) (name : String) (value : α) : Prop where
  bound : m.get? name = some value
  property : p name value
  earlier : ∀ other v, m.get? other = some v → Text.bytes other < Text.bytes name → ¬ p other v

/-- **To stop at the first entry of the list is to stop at the first name.** -/
theorem exists_split_iff_exists_first {m : NameMap α} {p q : String → α → Prop}
    (hq : ∀ name value, q name value → p name value) :
    (∃ before entry after, m.entries = before ++ entry :: after ∧ q entry.1 entry.2 ∧
        ∀ earlier ∈ before, ¬ p earlier.1 earlier.2)
      ↔ ∃ name value, m.First p name value ∧ q name value := by
  constructor
  · rintro ⟨before, ⟨name, value⟩, after, hsplit, hentry, hbefore⟩
    refine ⟨name, value, ⟨?_, hq _ _ hentry, fun other v hother hlt => ?_⟩, hentry⟩
    · exact mem_entries_iff.1 (hsplit ▸ List.mem_append_right _ List.mem_cons_self)
    · exact hbefore (other, v)
        ((get?_lt_iff_mem hsplit).1 ⟨hother, Text.bytes_lt_iff.1 hlt⟩)
  · rintro ⟨name, value, hfirst, hentry⟩
    obtain ⟨before, after, hsplit⟩ := List.append_of_mem (mem_entries_iff.2 hfirst.bound)
    refine ⟨before, (name, value), after, hsplit, hentry, fun earlier hmem => ?_⟩
    obtain ⟨hget, hlt⟩ := (get?_lt_iff_mem hsplit).2 hmem
    exact hfirst.earlier _ _ hget (Text.bytes_lt_iff.2 hlt)

/-- Looking for a failure finds the one of the first entry that fails. -/
theorem findSome?_entries_eq_some_iff {m : NameMap α} {f : String → α → Option β} {result : β} :
    (m.entries.findSome? fun entry => f entry.1 entry.2) = some result
      ↔ ∃ name value, m.First (fun n v => f n v ≠ none) name value
          ∧ f name value = some result := by
  rw [List.findSome?_eq_some_iff,
    ← exists_split_iff_exists_first (q := fun n v => f n v = some result)
      (fun n v h => by rw [h]; exact Option.some_ne_none _)]
  simp only [ne_eq, Decidable.not_not]

/-- Nothing is found where no entry fails. -/
theorem findSome?_entries_eq_none_iff {m : NameMap α} {f : String → α → Option β} :
    (m.entries.findSome? fun entry => f entry.1 entry.2) = none
      ↔ ∀ name value, m.get? name = some value → f name value = none := by
  rw [List.findSome?_eq_none_iff]
  exact ⟨fun h name value hget => h (name, value) (mem_entries_iff.2 hget),
    fun h entry hmem => h entry.1 entry.2 (mem_entries_iff.1 hmem)⟩

/-! ## Replacing the values -/

/-- The failure of a result, if it is one. -/
def failureOf? : Except ε β → Option ε
  | .error error => some error
  | .ok _ => none

theorem failureOf?_eq_some_iff {result : Except ε β} {error : ε} :
    failureOf? result = some error ↔ result = .error error := by
  cases result <;> simp [failureOf?]

/-- Replacing the values is looking for a failure first. -/
theorem traverseEntries_eq_error_iff {f : String → α → Except ε β}
    {entries : List (String × α)} {error : ε} :
    traverseEntries f entries = .error error
      ↔ (entries.findSome? fun entry => failureOf? (f entry.1 entry.2)) = some error := by
  induction entries with
  | nil => simp [traverseEntries]
  | cons first rest ih =>
    rw [traverseEntries, List.findSome?_cons]
    cases f first.1 first.2 with
    | error e => simp [failureOf?]
    | ok value =>
      refine Iff.trans ?_ ih
      cases traverseEntries f rest <;> simp

/-- What is found under a name after a traversal is what the function made of the
value there. -/
theorem lookup_of_traverseEntries {f : String → α → Except ε β} {entries : List (String × α)}
    {results : List (String × β)} (h : traverseEntries f entries = .ok results) (name : String) :
    (entries.lookup name = none → results.lookup name = none) ∧
      ∀ value, entries.lookup name = some value →
        ∃ result, f name value = .ok result ∧ results.lookup name = some result := by
  induction entries generalizing results with
  | nil =>
    obtain rfl : [] = results := by simpa [traverseEntries] using h
    simp
  | cons first rest ih =>
    obtain ⟨n, v⟩ := first
    rw [traverseEntries] at h
    split at h
    · cases h
    · next result hresult =>
      split at h
      · cases h
      · next others hothers =>
        obtain rfl := Except.ok.inj h
        rw [lookup_cons_eq, lookup_cons_eq]
        by_cases heq : name = n
        · subst heq
          simp only [if_true]
          exact ⟨fun hnone => absurd hnone (by simp), fun value hvalue =>
            ⟨result, Option.some.inj hvalue ▸ hresult, rfl⟩⟩
        · rw [if_neg heq, if_neg heq]
          exact ih hothers

theorem traverse_eq_error_iff_entries {m : NameMap α} {f : String → α → Except ε β} {error : ε} :
    m.traverse f = .error error ↔ traverseEntries f m.entries = .error error := by
  unfold traverse
  split
  · next h => rw [h]; simp
  · next h =>
    constructor
    · intro hc
      cases hc
    · intro hc
      rw [h] at hc
      cases hc

/-- **Replacing the values fails with the failure of the first name that
fails.** -/
theorem traverse_eq_error_iff {m : NameMap α} {f : String → α → Except ε β} {error : ε} :
    m.traverse f = .error error
      ↔ ∃ name value, m.First (fun n v => ∃ e, f n v = .error e) name value
          ∧ f name value = .error error := by
  rw [traverse_eq_error_iff_entries, traverseEntries_eq_error_iff,
    findSome?_entries_eq_some_iff (f := fun n v => failureOf? (f n v))]
  simp only [← Option.isSome_iff_ne_none, Option.isSome_iff_exists, failureOf?_eq_some_iff]

/-- Where replacing the values succeeds, a name is bound to what its value is
replaced with. -/
theorem get?_of_traverse {m : NameMap α} {f : String → α → Except ε β} {result : NameMap β}
    (h : m.traverse f = .ok result) (name : String) :
    (m.get? name = none → result.get? name = none) ∧
      ∀ value, m.get? name = some value →
        ∃ replaced, f name value = .ok replaced ∧ result.get? name = some replaced := by
  unfold traverse at h
  split at h
  · cases h
  · next results hresults =>
    obtain rfl := Except.ok.inj h
    exact lookup_of_traverseEntries hresults name

/-! ## Entries in any order -/

theorem perm_insertEntry {name : String} {value : α} {entries : List (String × α)}
    (h : ∀ entry ∈ entries, entry.1 ≠ name) :
    (insertEntry name value entries).Perm ((name, value) :: entries) := by
  induction entries with
  | nil => exact .refl _
  | cons entry rest ih =>
    obtain ⟨hentry, hrest⟩ := List.forall_mem_cons.1 h
    rw [insertEntry]
    split
    · exact .refl _
    · rw [if_neg (Ne.symm hentry)]
      exact ((ih hrest).cons entry).trans (.swap _ _ _)

/-- Inserting under new names adds their entries. -/
theorem perm_insertMany {entries : List (String × α)} {m : NameMap α}
    (hnames : (entries.map (·.1)).Nodup) (hnew : ∀ entry ∈ entries, entry.1 ∉ m.names) :
    (m.insertMany entries).entries.Perm (entries ++ m.entries) := by
  induction entries generalizing m with
  | nil => exact .refl _
  | cons entry rest ih =>
    obtain ⟨name, value⟩ := entry
    rw [List.map_cons, List.nodup_cons] at hnames
    obtain ⟨hname, hrest⟩ := List.forall_mem_cons.1 hnew
    have hinserted : (m.insert name value).entries.Perm ((name, value) :: m.entries) := by
      refine perm_insertEntry fun other hother heq => hname ?_
      subst heq
      exact List.mem_map.2 ⟨other, hother, rfl⟩
    have hrest' : ∀ other ∈ rest, other.1 ∉ (m.insert name value).names := by
      intro other hother hmem
      rcases mem_names_insert.1 hmem with heq | hold
      · subst heq
        exact hnames.1 (List.mem_map.2 ⟨other, hother, rfl⟩)
      · exact hrest other hother hold
    show ((m.insert name value).insertMany rest).entries.Perm _
    exact ((ih hnames.2 hrest').trans (hinserted.append_left rest)).trans List.perm_middle

/-- **Entries of different names make a map of the same entries**, put in the
order of their names. -/
theorem perm_ofList {entries : List (String × α)} (h : (entries.map (·.1)).Nodup) :
    (ofList entries).entries.Perm entries := by
  have hperm := perm_insertMany (m := .empty) h fun _ _ => List.not_mem_nil
  rwa [show (empty : NameMap α).entries = [] from rfl, List.append_nil] at hperm

/-- The entries of a map have different names. -/
theorem nodup_names (m : NameMap α) : (m.entries.map (·.1)).Nodup :=
  (sorted_iff_names.1 m.sorted).imp String.ne_of_lt

end BuildVariants.NameMap
