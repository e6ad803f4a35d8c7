/-!
# Finite maps from names

Variant assignments, resolved values, dependencies and environment variables
are all maps from names. What a user sees of them – the order of a listing,
which of two bad assignments is reported – is decided by the order of the
names, so a map is kept as the list of its entries in strictly increasing
order. Names are compared character by character, which for well-formed text
is the order of their UTF-8 bytes.

Because the order is strict, a name occurs at most once and two maps that look
up alike are equal (`NameMap.ext_get?`): a map has one representation.
-/

namespace BuildVariants

/-- A finite map from names to values, as its entries in increasing order of
the names. -/
structure NameMap (α : Type) where
  /-- The entries, smallest name first. -/
  entries : List (String × α)
  /-- No two entries share a name, and the names increase. -/
  sorted : entries.Pairwise (fun a b => a.1 < b.1)

namespace NameMap

variable {α β : Type}

/-- The map without entries. -/
def empty : NameMap α := ⟨[], .nil⟩

instance : EmptyCollection (NameMap α) := ⟨empty⟩

instance : Inhabited (NameMap α) := ⟨empty⟩

instance [DecidableEq α] : DecidableEq (NameMap α) := fun a b =>
  decidable_of_iff (a.entries = b.entries)
    ⟨fun h => by cases a; cases b; subst h; rfl, fun h => h ▸ rfl⟩

/-! ## Inserting -/

/-- Put an entry at its place in a sorted list, in the stead of an entry of
the same name. -/
def insertEntry (name : String) (value : α) : List (String × α) → List (String × α)
  | [] => [(name, value)]
  | entry :: rest =>
    if name < entry.1 then (name, value) :: entry :: rest
    else if name = entry.1 then (name, value) :: rest
    else entry :: insertEntry name value rest

theorem mem_insertEntry {name : String} {value : α} {entry : String × α}
    {entries : List (String × α)} (h : entry ∈ insertEntry name value entries) :
    entry = (name, value) ∨ entry ∈ entries := by
  induction entries with
  | nil => simpa [insertEntry] using h
  | cons first rest ih =>
    rw [insertEntry] at h
    split at h
    · simpa using h
    · split at h
      · rcases List.mem_cons.1 h with h | h
        · exact .inl h
        · exact .inr (List.mem_cons_of_mem _ h)
      · rcases List.mem_cons.1 h with h | h
        · exact .inr (h ▸ List.mem_cons_self)
        · exact (ih h).imp id (List.mem_cons_of_mem _)

/-- Inserting keeps the entries in order. -/
theorem insertEntry_sorted (name : String) (value : α) {entries : List (String × α)}
    (h : entries.Pairwise (fun a b => a.1 < b.1)) :
    (insertEntry name value entries).Pairwise (fun a b => a.1 < b.1) := by
  induction entries with
  | nil => simp [insertEntry]
  | cons first rest ih =>
    have hrest := List.pairwise_cons.1 h
    rw [insertEntry]
    split
    · next hlt =>
      refine List.pairwise_cons.2 ⟨fun entry hentry => ?_, h⟩
      rcases List.mem_cons.1 hentry with heq | hmem
      · exact heq ▸ hlt
      · exact String.lt_trans hlt (hrest.1 entry hmem)
    · next hlt =>
      split
      · next heq => exact List.pairwise_cons.2 ⟨fun entry hmem => heq ▸ hrest.1 entry hmem, hrest.2⟩
      · next hne =>
        refine List.pairwise_cons.2 ⟨fun entry hentry => ?_, ih hrest.2⟩
        rcases mem_insertEntry hentry with heq | hmem
        · rw [heq]
          refine Decidable.byContradiction fun hge => hne ?_
          exact String.le_antisymm (String.not_lt.1 hge) (String.not_lt.1 hlt)
        · exact hrest.1 entry hmem

/-- The map with `name` bound to `value`, whatever it was bound to before. -/
def insert (name : String) (value : α) (m : NameMap α) : NameMap α :=
  ⟨insertEntry name value m.entries, insertEntry_sorted name value m.sorted⟩

/-! ## Looking up -/

/-- The value bound to a name, if any. -/
def get? (m : NameMap α) (name : String) : Option α := m.entries.lookup name

/-- Whether a name is bound. -/
def contains (m : NameMap α) (name : String) : Bool := (m.get? name).isSome

@[simp] theorem get?_empty (name : String) : (empty : NameMap α).get? name = none := rfl

theorem lookup_cons_eq (name n : String) (v : α) (rest : List (String × α)) :
    ((n, v) :: rest).lookup name = if name = n then some v else rest.lookup name := by
  rw [List.lookup_cons]
  by_cases h : name = n
  · simp [h]
  · have hb : (name == n) = false := by simpa using h
    simp [h, hb]

/-- What is inserted is found under its name, and nothing else changes. -/
theorem lookup_insertEntry (name other : String) (value : α) (entries : List (String × α)) :
    (insertEntry name value entries).lookup other
      = if other = name then some value else entries.lookup other := by
  induction entries with
  | nil => rw [insertEntry, lookup_cons_eq]
  | cons first rest ih =>
    obtain ⟨n, v⟩ := first
    rw [insertEntry, lookup_cons_eq]
    split
    · rw [lookup_cons_eq, lookup_cons_eq]
    · split
      · next heq =>
        subst heq
        rw [lookup_cons_eq]
        split <;> simp_all
      · next hne =>
        rw [lookup_cons_eq, ih]
        split
        · next heq => subst heq; rw [if_neg (Ne.symm hne)]
        · rfl

/-- **An inserted name has its new value, every other name its old one.** -/
theorem get?_insert (m : NameMap α) (name other : String) (value : α) :
    (m.insert name value).get? other
      = if other = name then some value else m.get? other :=
  lookup_insertEntry name other value m.entries

theorem lookup_eq_none_of_lt {name : String} {entries : List (String × α)}
    (h : ∀ entry ∈ entries, name < entry.1) : entries.lookup name = none := by
  induction entries with
  | nil => rfl
  | cons first rest ih =>
    obtain ⟨n, v⟩ := first
    have hlt : name < n := h (n, v) List.mem_cons_self
    rw [lookup_cons_eq, if_neg (fun heq => String.lt_irrefl _ (heq ▸ hlt))]
    exact ih fun entry hentry => h entry (List.mem_cons_of_mem _ hentry)

theorem name_le_of_lookup_eq {n n' : String} {v v' : α} {rest rest' : List (String × α)}
    (hsorted : ((n', v') :: rest').Pairwise (fun a b => a.1 < b.1))
    (h : ((n, v) :: rest).lookup n = ((n', v') :: rest').lookup n) : n' ≤ n := by
  refine String.not_lt.1 fun hlt => ?_
  have hnone : ((n', v') :: rest').lookup n = none :=
    lookup_eq_none_of_lt fun entry hentry => by
      rcases List.mem_cons.1 hentry with heq | hmem
      · exact heq ▸ hlt
      · exact String.lt_trans hlt ((List.pairwise_cons.1 hsorted).1 entry hmem)
  rw [hnone, lookup_cons_eq] at h
  simp at h

/-- Sorted entries are determined by what is found under each name. -/
theorem eq_of_lookup_eq {first second : List (String × α)}
    (hf : first.Pairwise (fun a b => a.1 < b.1)) (hs : second.Pairwise (fun a b => a.1 < b.1))
    (h : ∀ name, first.lookup name = second.lookup name) : first = second := by
  induction first generalizing second with
  | nil =>
    cases second with
    | nil => rfl
    | cons entry rest =>
      have := h entry.1
      rw [lookup_cons_eq] at this
      simp at this
  | cons entry rest ih =>
    obtain ⟨n, v⟩ := entry
    cases second with
    | nil =>
      have := h n
      rw [lookup_cons_eq] at this
      simp at this
    | cons entry' rest' =>
      obtain ⟨n', v'⟩ := entry'
      have hname : n = n' :=
        String.le_antisymm (name_le_of_lookup_eq hf (h n').symm) (name_le_of_lookup_eq hs (h n))
      subst hname
      have hvalue : v = v' := by simpa [lookup_cons_eq] using h n
      subst hvalue
      have hrest : rest = rest' := by
        refine ih (List.pairwise_cons.1 hf).2 (List.pairwise_cons.1 hs).2 fun name => ?_
        by_cases heq : name = n
        · subst heq
          rw [lookup_eq_none_of_lt (List.pairwise_cons.1 hf).1,
            lookup_eq_none_of_lt (List.pairwise_cons.1 hs).1]
        · simpa [lookup_cons_eq, heq] using h name
      rw [hrest]

/-- **A map is its look-ups.** -/
theorem ext_get? {first second : NameMap α} (h : ∀ name, first.get? name = second.get? name) :
    first = second := by
  obtain ⟨entries, sorted⟩ := first
  obtain ⟨entries', sorted'⟩ := second
  have heq : entries = entries' := eq_of_lookup_eq sorted sorted' h
  subst heq
  rfl

/-! ## Whole maps -/

/-- The names bound, in increasing order. -/
def names (m : NameMap α) : List String := m.entries.map (·.1)

/-- Whether nothing is bound. -/
def isEmpty (m : NameMap α) : Bool := m.entries.isEmpty

/-- Insert a list of entries one after the other; the last one of a name wins. -/
def insertMany (m : NameMap α) (entries : List (String × α)) : NameMap α :=
  entries.foldl (fun m entry => m.insert entry.1 entry.2) m

/-- The map of a list of entries, where the last one of a name wins. -/
def ofList (entries : List (String × α)) : NameMap α := empty.insertMany entries

/-- Two maps laid one over the other: a name has its value in `upper` where it
has one there, and its value in `lower` otherwise. -/
def overlay (lower upper : NameMap α) : NameMap α := lower.insertMany upper.entries

/-- The map with `name` bound to `value` unless it is bound already. -/
def insertIfNew (name : String) (value : α) (m : NameMap α) : NameMap α :=
  if m.contains name then m else m.insert name value

/-- A name that has a value keeps it. -/
theorem get?_insertIfNew (m : NameMap α) (name other : String) (value : α) :
    (m.insertIfNew name value).get? other
      = if other = name then some ((m.get? name).getD value) else m.get? other := by
  unfold insertIfNew contains
  cases hm : m.get? name with
  | none => simp [get?_insert]
  | some v =>
    by_cases h : other = name
    · subst h; simp [hm]
    · simp [h]

/-- The map with each value replaced, names kept. -/
def map (f : String → α → β) (m : NameMap α) : NameMap β :=
  ⟨m.entries.map (fun entry => (entry.1, f entry.1 entry.2)),
    List.pairwise_map.2 (m.sorted.imp id)⟩

/-- A map with its values replaced binds a name to what its value is replaced
with. -/
theorem get?_map (f : String → α → β) (m : NameMap α) (name : String) :
    (m.map f).get? name = (m.get? name).map (f name) := by
  unfold get? map
  dsimp only
  induction m.entries with
  | nil => rfl
  | cons entry rest ih =>
    obtain ⟨n, v⟩ := entry
    rw [List.map_cons, lookup_cons_eq, lookup_cons_eq, ih]
    by_cases h : name = n
    · subst h
      rw [if_pos rfl, if_pos rfl, Option.map_some]
    · rw [if_neg h, if_neg h]

/-- Replace the value of each entry of a list, first entry first, unless one of
them fails. -/
def traverseEntries {ε : Type} (f : String → α → Except ε β) :
    List (String × α) → Except ε (List (String × β))
  | [] => .ok []
  | entry :: rest =>
    match f entry.1 entry.2 with
    | .error error => .error error
    | .ok value =>
      match traverseEntries f rest with
      | .error error => .error error
      | .ok others => .ok ((entry.1, value) :: others)

/-- A function that succeeds on all values leaves the names. -/
theorem names_of_traverseEntries {ε : Type} {f : String → α → Except ε β}
    {entries : List (String × α)} {results : List (String × β)}
    (h : traverseEntries f entries = .ok results) :
    results.map (·.1) = entries.map (·.1) := by
  induction entries generalizing results with
  | nil => simp_all [traverseEntries]
  | cons entry rest ih =>
    rw [traverseEntries] at h
    split at h
    · simp at h
    · split at h
      · simp at h
      · next others hrest =>
        simp only [Except.ok.injEq] at h
        subst h
        simp [ih hrest]

/-- Entries are in order if their names are. -/
theorem sorted_iff_names {entries : List (String × α)} :
    entries.Pairwise (fun a b => a.1 < b.1) ↔ (entries.map (·.1)).Pairwise (· < ·) :=
  List.pairwise_map.symm

/-- The map with each value replaced, in the order of the names, unless one of
them fails. -/
def traverse {ε : Type} (f : String → α → Except ε β) (m : NameMap α) : Except ε (NameMap β) :=
  match h : traverseEntries f m.entries with
  | .error error => .error error
  | .ok results =>
    .ok ⟨results, sorted_iff_names.2 (names_of_traverseEntries h ▸ sorted_iff_names.1 m.sorted)⟩

/-- **In a list of insertions the last one of a name wins,** and a name that
is not in the list keeps its value. -/
theorem get?_insertMany (entries : List (String × α)) (m : NameMap α) (name : String) :
    (m.insertMany entries).get? name = (entries.reverse.lookup name).or (m.get? name) := by
  induction entries generalizing m with
  | nil => simp [insertMany]
  | cons entry rest ih =>
    obtain ⟨n, v⟩ := entry
    have hstep : m.insertMany ((n, v) :: rest) = (m.insert n v).insertMany rest := rfl
    rw [hstep, ih, get?_insert, List.reverse_cons, List.lookup_append, lookup_cons_eq]
    by_cases h : name = n <;> simp [h]

/-- Where names occur once, a look-up finds the same entry from either end. -/
theorem lookup_reverse {entries : List (String × α)}
    (sorted : entries.Pairwise (fun a b => a.1 < b.1)) (name : String) :
    entries.reverse.lookup name = entries.lookup name := by
  induction entries with
  | nil => rfl
  | cons entry rest ih =>
    obtain ⟨n, v⟩ := entry
    obtain ⟨hbelow, hrest⟩ := List.pairwise_cons.1 sorted
    rw [List.reverse_cons, List.lookup_append, ih hrest, lookup_cons_eq, lookup_cons_eq]
    by_cases h : name = n
    · subst h
      rw [lookup_eq_none_of_lt hbelow]
      simp
    · simp [h]

/-- **A map laid over another decides where it binds a name.** -/
theorem get?_overlay (lower upper : NameMap α) (name : String) :
    (lower.overlay upper).get? name = (upper.get? name).or (lower.get? name) := by
  rw [overlay, get?_insertMany, lookup_reverse upper.sorted]
  rfl

/-- A map laid over the empty one stays as it is. -/
theorem empty_overlay (m : NameMap α) : empty.overlay m = m := by
  refine ext_get? fun name => ?_
  rw [get?_overlay, get?_empty, Option.or_none]

/-- The empty map hides nothing. -/
theorem overlay_empty (m : NameMap α) : m.overlay empty = m := rfl

/-- **Maps are laid over each other in any grouping.** -/
theorem overlay_assoc (lower middle upper : NameMap α) :
    (lower.overlay middle).overlay upper = lower.overlay (middle.overlay upper) := by
  refine ext_get? fun name => ?_
  rw [get?_overlay, get?_overlay, get?_overlay, get?_overlay, Option.or_assoc]

/-- The entries of a map, inserted one after the other, make the map. -/
theorem insertMany_entries (m : NameMap α) : empty.insertMany m.entries = m := empty_overlay m

end NameMap

end BuildVariants
