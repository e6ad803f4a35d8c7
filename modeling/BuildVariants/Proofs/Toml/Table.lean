import BuildVariants.Toml.Reading

/-!
# What a TOML text says

TOML has no null: a name that is set has a value. Reading keeps to that. No
value that is read is null (`value?_ne_null`), and whatever a line does to the
tables under construction, it puts nothing but such values and further tables
under the names of the root table. So a text is read as a map with something
under each of its names (`entries_of_parse?`).

Where the root table is depends on the headers that have been read: until the
first one it is the table under way, and from then on the one that is kept
aside (`Draft.top`). The invariant is about the root table alone. A change
further down leaves a table where it passes (`Entries.Filled.modifyAt`), so
nothing needs to be known of the tables below.
-/

namespace BuildVariants.Toml

/-! ## Values -/

/-- What is made of a part that is read is not null, if nothing that can be made
of it is. -/
theorem ne_null_of_map {α : Type} {read : Option α} {make : α → Data} {behind : α → List Char}
    {data : Data} {rest : List Char}
    (h : read.map (fun part => (make part, behind part)) = some (data, rest))
    (hmake : ∀ part, make part ≠ .null) : data ≠ .null := by
  obtain ⟨part, _, hpart⟩ := Option.map_eq_some_iff.1 h
  cases hpart
  exact hmake part

/-- A date or a time is a value. -/
theorem dateTime?_ne_null {cs rest : List Char} {data : Data}
    (h : dateTime? cs = some (data, rest)) : data ≠ .null := by
  unfold dateTime? at h
  split at h
  · cases h
    nofun
  · exact ne_null_of_map h fun _ => nofun

/-- A number with a fraction or an exponent is a value. -/
theorem real?_ne_null {negative : Bool} {whole places : List Char} {exponent : Int} {data : Data}
    (h : real? negative whole places exponent = some data) : data ≠ .null := by
  unfold real? at h
  dsimp only at h
  split at h
  · cases h
  · cases h
    nofun

/-- A float is a value: infinite, not a number, or made of its digits. -/
theorem float?_ne_null {cs rest : List Char} {data : Data}
    (h : float? cs = some (data, rest)) : data ≠ .null := by
  unfold float? at h
  dsimp only at h
  split at h
  · cases h
    nofun
  · cases h
    nofun
  · obtain ⟨⟨whole, cs⟩, _, h⟩ := Option.bind_eq_some_iff.1 h
    dsimp only at h
    -- a point behind the whole part, or an exponent
    split at h
    · obtain ⟨⟨places, cs⟩, _, h⟩ := Option.bind_eq_some_iff.1 h
      obtain ⟨made, hmade, hdata⟩ := Option.map_eq_some_iff.1 h
      cases hdata
      exact real?_ne_null hmade
    · obtain ⟨⟨exponent, cs⟩, _, h⟩ := Option.bind_eq_some_iff.1 h
      obtain ⟨made, hmade, hdata⟩ := Option.map_eq_some_iff.1 h
      cases hdata
      exact real?_ne_null hmade

/-- An integer is a value, in whatever base it is written. -/
theorem integer?_ne_null {cs rest : List Char} {data : Data}
    (h : integer? cs = some (data, rest)) : data ≠ .null := by
  unfold integer? at h
  extract_lets finish at h
  -- in whatever base it is written, an integer is made of the number that is read
  have hfinish {read : Option (Int × List Char)} (h : read.bind finish = some (data, rest)) :
      data ≠ .null := by
    obtain ⟨⟨n, cs⟩, _, hread⟩ := Option.bind_eq_some_iff.1 h
    dsimp only [finish] at hread
    split at hread
    · cases hread
      nofun
    · cases hread
  split at h
  · exact hfinish h
  · exact hfinish h
  · exact hfinish h
  · exact hfinish h

/-- Whatever starts as a number does is a value: a date, a float or an integer. -/
theorem number?_ne_null {cs rest : List Char} {data : Data}
    (h : number? cs = some (data, rest)) : data ≠ .null := by
  unfold number? at h
  rcases Option.or_eq_some_iff.1 h with hdate | ⟨_, h⟩
  · exact dateTime?_ne_null hdate
  · rcases Option.or_eq_some_iff.1 h with hfloat | ⟨_, hinteger⟩
    · exact float?_ne_null hfloat
    · exact integer?_ne_null hinteger

/-- **No value is null.** -/
theorem value?_ne_null {fuel depth : Nat} {cs rest : List Char} {data : Data}
    (h : value? fuel depth cs = some (data, rest)) : data ≠ .null := by
  unfold value? at h
  split at h
  · cases h
  -- a text in either quotes, a truth value, a list, an inline table or a number
  split at h
  · exact ne_null_of_map h fun _ => nofun
  · exact ne_null_of_map h fun _ => nofun
  · cases h
    nofun
  · cases h
    nofun
  · split at h
    · exact ne_null_of_map h fun _ => nofun
    · cases h
  · split at h
    · split at h
      · cases h
        nofun
      · exact ne_null_of_map h fun _ => nofun
    · cases h
  · exact number?_ne_null h

/-! ## Tables -/

/-- **Nothing is null under the names of a table.** Further tables count as
filled, whatever they hold. -/
def Entries.Filled (entries : Entries) : Prop := ∀ entry ∈ entries, entry.2 ≠ .value .null

namespace Entries

/-- Entries stay filled when one with a value is added. -/
theorem Filled.append {entries : Entries} (h : entries.Filled) (name : String) {node : Node}
    (hnode : node ≠ .value .null) : Filled (entries ++ [(name, node)]) := by
  intro entry hentry
  rcases List.mem_append.1 hentry with hold | hnew
  · exact h entry hold
  · rw [List.mem_singleton.1 hnew]
    exact hnode

/-- Entries stay filled when a value or a table is put under one of their names. -/
theorem Filled.replace {entries : Entries} (h : entries.Filled) (name : String) {node : Node}
    (hnode : node ≠ .value .null) : (entries.replace name node).Filled := by
  intro entry hentry
  obtain ⟨old, hold, rfl⟩ := List.mem_map.1 hentry
  split
  · exact hnode
  · exact h old hold

/-- A change in a table below leaves a table under the first name of its path,
so only a change in the table itself could put a null there. -/
theorem Filled.modifyAt {α : Type} {byDots : Bool}
    {change : Origin → Entries → Option (Entries × α)}
    (hchange : ∀ {origin entries entries' result}, Filled entries →
      change origin entries = some (entries', result) → Filled entries')
    {path : List String} {origin : Origin} {entries entries' : Entries} {result : α}
    (h : entries.Filled)
    (hmodify : Entries.modifyAt byDots change path origin entries = some (entries', result)) :
    entries'.Filled := by
  cases path with
  | nil => exact hchange h hmodify
  | cons name path =>
    unfold Entries.modifyAt at hmodify
    split at hmodify
    · obtain ⟨_, _, hmade⟩ := Option.bind_eq_some_iff.1 hmodify
      cases hmade
      exact h.append name nofun
    · cases hmodify
    · split at hmodify
      · cases hmodify
      · obtain ⟨_, _, hmade⟩ := Option.bind_eq_some_iff.1 hmodify
        cases hmade
        exact h.replace name nofun
    · split at hmodify
      · cases hmodify
      · obtain ⟨_, _, hmade⟩ := Option.bind_eq_some_iff.1 hmodify
        cases hmade
        exact h.replace name nofun

/-- Setting a key fills the name it is set under, however far down that is. -/
theorem Filled.setKey {path : List String} {name : String} {data : Data}
    {entries entries' : Entries} (h : entries.Filled) (hdata : data ≠ .null)
    (hset : entries.setKey path name data = some entries') : entries'.Filled := by
  obtain ⟨⟨_, _⟩, hmodify, rfl⟩ := Option.map_eq_some_iff.1 hset
  refine h.modifyAt (fun hentries hset => ?_) hmodify
  unfold setKey.set at hset
  split at hset
  · cases hset
  · cases hset
    exact hentries.append name fun hnull => hdata (Node.value.inj hnull)

/-- Opening a table adds no value: at most a table made on the way to another is
taken out. -/
theorem Filled.openTable {path : List String} {name : String} {entries entries' below : Entries}
    (h : entries.Filled) (hopen : entries.openTable path name = some (entries', below)) :
    entries'.Filled := by
  refine h.modifyAt (fun hentries htake => ?_) hopen
  unfold openTable.take at htake
  split at htake
  · cases htake
    exact hentries
  · cases htake
    exact fun entry hentry => hentries entry (List.mem_filter.1 hentry).1
  · cases htake

/-- Closing a table puts it back under its name. -/
theorem Filled.closeTable {path : List String} {name : String} {entries entries' table : Entries}
    (h : entries.Filled) (hclose : entries.closeTable path name table = some entries') :
    entries'.Filled := by
  obtain ⟨⟨_, _⟩, hmodify, rfl⟩ := Option.map_eq_some_iff.1 hclose
  refine h.modifyAt (fun hentries hput => ?_) hmodify
  cases hput
  exact hentries.append name nofun

theorem Filled.openItem {path : List String} {name : String} {entries entries' : Entries}
    (h : entries.Filled) (hopen : entries.openItem path name = some entries') :
    entries'.Filled := by
  obtain ⟨⟨_, _⟩, hmodify, rfl⟩ := Option.map_eq_some_iff.1 hopen
  refine h.modifyAt (fun hentries hbegin => ?_) hmodify
  unfold openItem.begin at hbegin
  split at hbegin
  · cases hbegin
    exact hentries.append name nofun
  · cases hbegin
    exact hentries
  · cases hbegin

theorem Filled.closeItem {path : List String} {name : String} {entries entries' table : Entries}
    (h : entries.Filled) (hclose : entries.closeItem path name table = some entries') :
    entries'.Filled := by
  obtain ⟨⟨_, _⟩, hmodify, rfl⟩ := Option.map_eq_some_iff.1 hclose
  refine h.modifyAt (fun hentries hadd => ?_) hmodify
  unfold closeItem.add at hadd
  split at hadd
  · cases hadd
    exact hentries.replace name nofun
  · cases hadd

end Entries

/-! ## Lines -/

namespace Draft

/-- The root table of a draft, which is the table under way until the first
header. -/
def top (draft : Draft) : Entries :=
  match draft.place with
  | .root => draft.current
  | .table .. | .item .. => draft.root

/-- The entries of a finished draft are filled, since those of its root table are.
-/
theorem filled_close? {draft : Draft} {entries : Entries} (h : draft.top.Filled)
    (hclose : draft.close? = some entries) : entries.Filled := by
  obtain ⟨root, place, current⟩ := draft
  cases place with
  | root =>
    cases hclose
    exact h
  | table path name => exact Entries.Filled.closeTable h hclose
  | item path name => exact Entries.Filled.closeItem h hclose

theorem filled_setKey? {draft draft' : Draft} {path : List String} {name : String} {data : Data}
    (h : draft.top.Filled) (hdata : data ≠ .null)
    (hset : draft.setKey? path name data = some draft') : draft'.top.Filled := by
  obtain ⟨root, place, current⟩ := draft
  obtain ⟨entries, hentries, rfl⟩ := Option.map_eq_some_iff.1 hset
  cases place with
  | root => exact Entries.Filled.setKey h hdata hentries
  | table path name => exact h
  | item path name => exact h

/-- A table header keeps the root table filled. -/
theorem filled_openTable? {draft draft' : Draft} {path : List String} {name : String}
    (h : draft.top.Filled) (hopen : draft.openTable? path name = some draft') :
    draft'.top.Filled := by
  obtain ⟨root, hroot, hopen⟩ := Option.bind_eq_some_iff.1 hopen
  obtain ⟨⟨root', current⟩, hroot', hopen⟩ := Option.bind_eq_some_iff.1 hopen
  cases hopen
  exact (filled_close? h hroot).openTable hroot'

theorem filled_openItem? {draft draft' : Draft} {path : List String} {name : String}
    (h : draft.top.Filled) (hopen : draft.openItem? path name = some draft') :
    draft'.top.Filled := by
  obtain ⟨root, hroot, hopen⟩ := Option.bind_eq_some_iff.1 hopen
  obtain ⟨root', hroot', hopen⟩ := Option.bind_eq_some_iff.1 hopen
  cases hopen
  exact (filled_close? h hroot).openItem hroot'

end Draft

/-- **A line keeps the root table filled.** -/
theorem filled_line? {draft draft' : Draft} {cs rest : List Char} (h : draft.top.Filled)
    (hline : line? draft cs = some (draft', rest)) : draft'.top.Filled := by
  unfold line? at hline
  split at hline
  · obtain ⟨⟨path, name, _⟩, _, hline⟩ := Option.bind_eq_some_iff.1 hline
    dsimp only at hline
    split at hline
    · obtain ⟨_, _, hline⟩ := Option.bind_eq_some_iff.1 hline
      obtain ⟨_, hopen, heq⟩ := Option.map_eq_some_iff.1 hline
      cases heq
      exact Draft.filled_openItem? h hopen
    · cases hline
  · obtain ⟨⟨path, name, _⟩, _, hline⟩ := Option.bind_eq_some_iff.1 hline
    dsimp only at hline
    split at hline
    · obtain ⟨_, _, hline⟩ := Option.bind_eq_some_iff.1 hline
      obtain ⟨_, hopen, heq⟩ := Option.map_eq_some_iff.1 hline
      cases heq
      exact Draft.filled_openTable? h hopen
    · cases hline
  · obtain ⟨_, _, heq⟩ := Option.map_eq_some_iff.1 hline
    cases heq
    exact h
  · split at hline
    · cases hline
      exact h
    · obtain ⟨⟨path, name, _⟩, _, hline⟩ := Option.bind_eq_some_iff.1 hline
      dsimp only at hline
      split at hline
      · obtain ⟨⟨data, _⟩, hvalue, hline⟩ := Option.bind_eq_some_iff.1 hline
        obtain ⟨_, _, hline⟩ := Option.bind_eq_some_iff.1 hline
        obtain ⟨_, hset, heq⟩ := Option.map_eq_some_iff.1 hline
        cases heq
        exact Draft.filled_setKey? h (value?_ne_null hvalue) hset
      · cases hline

/-- **Lines keep the root table filled.** -/
theorem filled_lines? {fuel : Nat} {draft draft' : Draft} {cs : List Char} (h : draft.top.Filled)
    (hlines : lines? fuel draft cs = some draft') : draft'.top.Filled := by
  induction fuel generalizing draft cs with
  | zero => cases hlines
  | succ fuel ih =>
    unfold lines? at hlines
    split at hlines
    · cases hlines
      exact h
    · obtain ⟨⟨next, _⟩, hline, hlines⟩ := Option.bind_eq_some_iff.1 hlines
      exact ih (filled_line? h hline) hlines

/-! ## Texts -/

/-- Filled tables are maps with something under each of their names. -/
theorem ne_null_of_mem_entriesToData {entries : Entries} (h : entries.Filled) :
    ∀ entry ∈ Node.entriesToData entries, entry.2 ≠ .null := by
  induction entries with
  | nil => exact List.forall_mem_nil _
  | cons first rest ih =>
    obtain ⟨hfirst, hrest⟩ := List.forall_mem_cons.1 h
    obtain ⟨name, node⟩ := first
    unfold Node.entriesToData
    refine List.forall_mem_cons.2 ⟨?_, ih hrest⟩
    cases node with
    | value data => exact fun hnull => hfirst (congrArg Node.value hnull)
    | table origin entries => nofun
    | tables items => nofun

/-- **A TOML text is a map with something under each of its names.** -/
theorem entries_of_parse? {text : String} {data : Data} (h : parse? text = some data) :
    ∃ entries, data = .map entries ∧ ∀ entry ∈ entries, entry.2 ≠ .null := by
  obtain ⟨draft, hlines, h⟩ := Option.bind_eq_some_iff.1 h
  obtain ⟨root, hclose, h⟩ := Option.bind_eq_some_iff.1 h
  cases h
  have hstart : Draft.start.top.Filled := List.forall_mem_nil _
  exact ⟨_, rfl,
    ne_null_of_mem_entriesToData (Draft.filled_close? (filled_lines? hstart hlines) hclose)⟩

end BuildVariants.Toml
