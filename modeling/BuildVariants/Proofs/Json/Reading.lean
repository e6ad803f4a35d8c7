import BuildVariants.Proofs.Data.Arrangement
import BuildVariants.Proofs.Json.Tokens

/-!
# JSON texts are read back

The printer has two styles, which differ in the blanks they put between the parts
of a text and in nothing else. A `Style` says where blanks stand and what the
characters of data are with these blanks; `Style.pretty` and `Style.compact` are
the two. The reader skips blanks there, so it reads every style alike.

What is read from the text of some data is the data with the entries of its maps
rearranged (`exists_parse?_data`), since the reader visits entries by name. This
holds of data without fractions in which every integer fits and no map has a
name twice (`Writable`).
-/

namespace BuildVariants.Json

open Data (Rearranged EntriesRel)
open Text.Numeral (isDigit digits charsOfInt isDigit_of_mem_digits digits_ne_nil)

/-! ## Styles -/

/-- **A way to print data**, by where it puts blanks. -/
structure Style where
  /-- The characters of data at a depth. -/
  data : Nat → Data → List Char
  /-- The characters of the items after the first. -/
  items : Nat → List Data → List Char
  /-- The characters of the entries after the first. -/
  entries : Nat → List (String × Data) → List Char
  /-- What stands behind an opening bracket or a comma and before a closing
  bracket. -/
  gap : Nat → List Char
  /-- What stands behind a colon. -/
  space : List Char
  isBlank_gap : ∀ depth, ∀ c ∈ gap depth, IsBlank c
  isBlank_space : ∀ c ∈ space, IsBlank c
  data_scalar : ∀ depth d, (∀ first rest, d ≠ .list (first :: rest)) →
    (∀ name value rest, d ≠ .map ((name, value) :: rest)) → data depth d = (scalar d).toList
  data_list : ∀ depth first rest, data depth (.list (first :: rest))
    = '[' :: (gap (depth + 1) ++ (data (depth + 1) first
      ++ (items (depth + 1) rest ++ (gap depth ++ [']']))))
  data_map : ∀ depth name first rest, data depth (.map ((name, first) :: rest))
    = '\x7b' :: (gap (depth + 1) ++ ((quote name).toList ++ ':' :: (space
      ++ (data (depth + 1) first ++ (entries (depth + 1) rest ++ (gap depth ++ ['\x7d']))))))
  items_nil : ∀ depth, items depth [] = []
  items_cons : ∀ depth item rest,
    items depth (item :: rest) = ',' :: (gap depth ++ (data depth item ++ items depth rest))
  entries_nil : ∀ depth, entries depth [] = []
  entries_cons : ∀ depth name value rest, entries depth ((name, value) :: rest)
    = ',' :: (gap depth ++ ((quote name).toList ++ ':' :: (space
      ++ (data depth value ++ entries depth rest))))

namespace Style

/-- Every part on a line of its own. -/
def pretty : Style where
  data depth d := (prettyAt depth d).toList
  items depth rest := (prettyItems depth rest).toList
  entries depth rest := (prettyEntries depth rest).toList
  gap depth := (newline depth).toList
  space := [' ']
  isBlank_gap depth c hc := by
    rw [newline, String.toList_append, List.mem_append] at hc
    rcases hc with hc | hc
    · exact .inr (.inl (List.mem_singleton.1 hc))
    · rw [String.toList_ofList] at hc
      exact .inl (List.eq_of_mem_replicate hc)
  isBlank_space c hc := .inl (List.mem_singleton.1 hc)
  data_scalar depth d hlist hmap := by rw [prettyAt.eq_3 _ _ hlist hmap]
  data_list depth first rest := by
    simp only [prettyAt, String.toList_append, List.append_assoc]
    rfl
  data_map depth name first rest := by
    simp only [prettyAt, String.toList_append, List.append_assoc]
    rfl
  items_nil _ := rfl
  items_cons depth item rest := by
    simp only [prettyItems, String.toList_append, List.append_assoc]
    rfl
  entries_nil _ := rfl
  entries_cons depth name value rest := by
    simp only [prettyEntries, String.toList_append, List.append_assoc]
    rfl

/-- Everything on one line. -/
def compact : Style where
  data _ d := (Json.compact d).toList
  items _ rest := (compactItems rest).toList
  entries _ rest := (compactEntries rest).toList
  gap _ := []
  space := []
  isBlank_gap _ _ hc := nomatch hc
  isBlank_space _ hc := nomatch hc
  data_scalar _ d hlist hmap := by rw [Json.compact.eq_3 _ hlist hmap]
  data_list _ first rest := by
    simp only [Json.compact, String.toList_append, List.append_assoc]
    rfl
  data_map _ name first rest := by
    simp only [Json.compact, String.toList_append, List.append_assoc]
    rfl
  items_nil _ := rfl
  items_cons _ item rest := by
    simp only [compactItems, String.toList_append, List.append_assoc]
    rfl
  entries_nil _ := rfl
  entries_cons _ name value rest := by
    simp only [compactEntries, String.toList_append, List.append_assoc]
    rfl

end Style

/-! ## Single values -/

-- the equations of the reader are slow to derive: once, here, and not from each
-- of the proofs below at the same time
attribute [local simp] value? items? members?

/-- **Data that a text can say**: without fractions, with integers that fit and
without two entries of one name in a map. -/
inductive Writable : Data → Prop
  | null : Writable .null
  | bool (value : Bool) : Writable (.bool value)
  | int {value : Int} (h : Fits value) : Writable (.int value)
  | text (value : String) : Writable (.text value)
  | list {items : List Data} (h : ∀ item ∈ items, Writable item) : Writable (.list items)
  | map {entries : List (String × Data)} (hnames : (entries.map (·.1)).Nodup)
      (h : ∀ entry ∈ entries, Writable entry.2) : Writable (.map entries)

/-- A text or nothing can be written. -/
theorem Writable.ofOption (value : Option String) : Writable (.ofOption value) := by
  cases value
  · exact .null
  · exact .text _

/-- Texts can be written. -/
theorem Writable.ofTexts (values : List String) : Writable (.ofTexts values) := by
  refine .list fun item hitem => ?_
  obtain ⟨value, _, rfl⟩ := List.mem_map.1 hitem
  exact .text value

/-- A map with one entry can be written if what is in it can. -/
theorem Writable.single {name : String} {value : Data} (h : Writable value) :
    Writable (.map [(name, value)]) :=
  .map (List.pairwise_singleton _ _) (List.forall_mem_singleton.2 h)

/-- What is known by name can be written, if each of it can. -/
theorem writable_entries_map {α : Type} {write : α → Data}
    (h : ∀ value, Writable (write value)) (m : NameMap α) :
    Writable (.map (m.map fun _ value => write value).entries) := by
  refine .map (NameMap.nodup_names _) fun entry hentry => ?_
  obtain ⟨original, _, hvalue⟩ := NameMap.exists_of_mem_entries_map hentry
  exact hvalue ▸ h original

/-- A value may have blanks in front of it. -/
theorem value?_skipBlanks (fuel : Nat) (cs : List Char) :
    value? fuel (skipBlanks cs) = value? fuel cs := by
  cases fuel with
  | zero => rfl
  | succ fuel => rw [value?, value?, skipBlanks_skipBlanks]

theorem value?_append {blanks : List Char} (h : ∀ c ∈ blanks, IsBlank c) (fuel : Nat)
    (rest : List Char) : value? fuel (blanks ++ rest) = value? fuel rest := by
  rw [← value?_skipBlanks, skipBlanks_append h, value?_skipBlanks]

theorem value?_of_isDigit {c : Char} (h : isDigit c = true) (fuel : Nat) (rest : List Char) :
    value? (fuel + 1) (c :: rest) = number? false (c :: rest) := by
  have hblank : ¬ IsBlank c := by
    rintro (rfl | rfl | rfl | rfl) <;> exact absurd h (by decide)
  rw [value?, skipBlanks_cons hblank]
  split
  all_goals
    first
    | rfl
    | next heq =>
      obtain rfl := (List.cons.inj heq).1
      exact absurd h (by decide)

/-- **An integer is read back** in front of what ends it. -/
theorem value?_charsOfInt {value : Int} (h : Fits value) (fuel : Nat) {rest : List Char}
    (hrest : EndsNumber rest) :
    value? (fuel + 1) (charsOfInt value ++ rest) = some (.int value, rest) := by
  rw [charsOfInt]
  split_ifs with hneg
  · have hvalue : (if true then -(value.natAbs : Int) else value.natAbs) = value := by
      rw [if_pos rfl]
      omega
    rw [List.cons_append, value?, skipBlanks_cons (by decide)]
    show number? true _ = _
    rw [number?_digits true (fun _ => by omega) (hvalue.symm ▸ h) hrest, hvalue]
  · have hvalue : (if false then -(value.natAbs : Int) else value.natAbs) = value := by
      rw [if_neg Bool.false_ne_true]
      omega
    obtain ⟨c, cs, hdigits⟩ := List.exists_cons_of_ne_nil (digits_ne_nil value.natAbs)
    have hc : isDigit c = true :=
      isDigit_of_mem_digits (n := value.natAbs) (hdigits ▸ List.mem_cons_self)
    have hnumber := number?_digits false (n := value.natAbs)
      (fun hn => absurd hn Bool.false_ne_true) (hvalue.symm ▸ h) hrest
    rw [hdigits, List.cons_append] at hnumber
    rw [hdigits, List.cons_append, value?_of_isDigit hc, hnumber, hvalue]

/-- A quoted text is its escaped characters between quotation marks. -/
theorem toList_quote_append (text : String) (rest : List Char) :
    (quote text).toList ++ rest = '"' :: (text.toList.flatMap escapeChar ++ '"' :: rest) := by
  rw [quote, String.toList_ofList, List.cons_append, List.cons_append, List.append_assoc]
  rfl

/-- **A quoted text is read back**, whatever stands behind it. -/
theorem value?_quote (text : String) (fuel : Nat) (rest : List Char) :
    value? (fuel + 1) ((quote text).toList ++ rest) = some (.text text, rest) := by
  rw [toList_quote_append, value?, skipBlanks_cons (by decide)]
  show (text? _).map _ = _
  rw [text?_flatMap_escapeChar, String.ofList_toList]
  rfl

/-! ## Lists and maps -/

theorem endsNumber_cons {c : Char} (h : ¬ ContinuesNumber c) (rest : List Char) :
    EndsNumber (c :: rest) :=
  fun _ hfirst => Option.some.inj hfirst ▸ h

theorem endsNumber_append {blanks : List Char} (h : ∀ c ∈ blanks, IsBlank c) {c : Char}
    (hc : ¬ ContinuesNumber c) (rest : List Char) : EndsNumber (blanks ++ c :: rest) := by
  cases blanks with
  | nil => exact endsNumber_cons hc rest
  | cons blank blanks =>
    refine endsNumber_cons ?_ _
    rcases h blank List.mem_cons_self with rfl | rfl | rfl | rfl <;> decide

/-- **A text is read as a piece of data**, up to the order of entries, with this
much fuel and whatever stands behind it. -/
def ReadAs (fuel : Nat) (cs : List Char) (d : Data) : Prop :=
  ∀ rest, EndsNumber rest → ∃ read, value? fuel (cs ++ rest) = some (read, rest) ∧ d.Rearranged read

variable (style : Style)

/-- The text of a piece of data, with fuel for each of its characters, is read
as the data. -/
def ReadsBack (d : Data) : Prop :=
  ∀ depth fuel, (style.data depth d).length ≤ fuel → ReadAs fuel (style.data depth d) d

variable {style}

theorem items?_skipBlanks (fuel : Nat) (cs : List Char) :
    items? fuel (skipBlanks cs) = items? fuel cs := by
  cases fuel with
  | zero => rfl
  | succ fuel => rw [items?, items?, value?_skipBlanks]

theorem members?_skipBlanks (fuel : Nat) (cs : List Char) :
    members? fuel (skipBlanks cs) = members? fuel cs := by
  cases fuel with
  | zero => rfl
  | succ fuel => rw [members?, members?, skipBlanks_skipBlanks]

theorem items?_append {blanks : List Char} (h : ∀ c ∈ blanks, IsBlank c) (fuel : Nat)
    (rest : List Char) : items? fuel (blanks ++ rest) = items? fuel rest := by
  rw [← items?_skipBlanks, skipBlanks_append h, items?_skipBlanks]

theorem members?_append {blanks : List Char} (h : ∀ c ∈ blanks, IsBlank c) (fuel : Nat)
    (rest : List Char) : members? fuel (blanks ++ rest) = members? fuel rest := by
  rw [← members?_skipBlanks, skipBlanks_append h, members?_skipBlanks]

/-- What closes a list is not its first item. -/
theorem items?_of_closing {fuel : Nat} {cs rest : List Char} (h : skipBlanks cs = ']' :: rest) :
    items? fuel cs = none := by
  match fuel with
  | 0 => rfl
  | 1 => rfl
  | fuel + 2 =>
    rw [items?, value?, h]
    rfl

/-- A bracket opens a list, which is empty if it is closed at once. -/
theorem value?_bracket (fuel : Nat) (cs : List Char) :
    value? (fuel + 1) ('[' :: cs) = match skipBlanks cs with
      | ']' :: cs => some (.list [], cs)
      | cs => (items? fuel cs).map fun read => (.list read.1, read.2) := by
  rw [value?, skipBlanks_cons (by decide)]
  rfl

/-- Items that are read behind a bracket make up a list. -/
theorem value?_of_items? {fuel : Nat} {cs rest : List Char} {items : List Data}
    (h : items? fuel cs = some (items, rest)) :
    value? (fuel + 1) ('[' :: cs) = some (.list items, rest) := by
  rw [value?_bracket]
  split
  · next hclosing =>
    rw [items?_of_closing hclosing] at h
    cases h
  · rw [items?_skipBlanks, h]
    rfl

/-- A brace that closes an object is no member. -/
theorem members?_of_closing {fuel : Nat} {cs rest : List Char}
    (h : skipBlanks cs = '\x7d' :: rest) : members? fuel cs = none := by
  cases fuel with
  | zero => rfl
  | succ fuel =>
    rw [members?, h]
    rfl

/-- A brace opens an object, which is empty if it is closed at once. -/
theorem value?_brace (fuel : Nat) (cs : List Char) :
    value? (fuel + 1) ('\x7b' :: cs) = match skipBlanks cs with
      | '\x7d' :: cs => some (.map [], cs)
      | cs => (members? fuel cs).map fun read =>
        (.map (NameMap.ofList read.1).entries, read.2) := by
  rw [value?, skipBlanks_cons (by decide)]
  rfl

/-- Members that are read behind a brace make up a map, sorted by name. -/
theorem value?_of_members? {fuel : Nat} {cs rest : List Char} {members : List (String × Data)}
    (h : members? fuel cs = some (members, rest)) :
    value? (fuel + 1) ('\x7b' :: cs)
      = some (.map (NameMap.ofList members).entries, rest) := by
  rw [value?_brace]
  split
  · next hclosing =>
    rw [members?_of_closing hclosing] at h
    cases h
  · rw [members?_skipBlanks, h]
    rfl

/-- Items are read back up to the closing bracket. -/
theorem exists_items?_items {depth : Nat} {close : List Char} (hclose : ∀ c ∈ close, IsBlank c)
    (after : List Char) {first : Data} {rest : List Data}
    (h : ∀ item ∈ first :: rest, ReadsBack style item) {fuel : Nat}
    (hfuel : (style.data depth first).length + (style.items depth rest).length < fuel) :
    ∃ others, items? fuel (style.data depth first
        ++ (style.items depth rest ++ (close ++ ']' :: after))) = some (others, after)
      ∧ List.Forall₂ Rearranged (first :: rest) others := by
  obtain ⟨fuel, rfl⟩ := Nat.exists_eq_add_one_of_ne_zero (Nat.ne_zero_of_lt hfuel)
  have hfirst := h first List.mem_cons_self depth fuel (by omega)
  induction rest generalizing first fuel with
  | nil =>
    obtain ⟨read, hread, hrel⟩ :=
      hfirst _ (endsNumber_append hclose (show ¬ ContinuesNumber ']' by decide) after)
    refine ⟨[read], ?_, .cons hrel .nil⟩
    rw [style.items_nil, List.nil_append, items?, hread]
    simp only [Option.bind_eq_bind, Option.bind_some]
    rw [skipBlanks_append hclose, skipBlanks_cons (by decide)]
    rfl
  | cons item rest ih =>
    rw [style.items_cons] at hfuel ⊢
    simp only [List.length_append, List.length_cons] at hfuel
    obtain ⟨fuel, rfl⟩ := Nat.exists_eq_add_one_of_ne_zero (show fuel ≠ 0 by omega)
    have hitem : ReadAs fuel (style.data depth item) item :=
      h item (List.mem_cons_of_mem _ List.mem_cons_self) depth fuel (by omega)
    obtain ⟨others, hothers, hrels⟩ :=
      ih (fun other hother => h other (List.mem_cons_of_mem _ hother)) fuel (by omega) hitem
    obtain ⟨read, hread, hrel⟩ := hfirst _
      (endsNumber_cons (show ¬ ContinuesNumber ',' by decide) _)
    refine ⟨read :: others, ?_, .cons hrel hrels⟩
    simp only [List.append_assoc, List.cons_append]
    rw [items?, hread]
    simp only [Option.bind_eq_bind, Option.bind_some]
    rw [skipBlanks_cons (by decide)]
    show (items? _ _).map _ = _
    rw [items?_append (style.isBlank_gap depth), hothers]
    rfl

/-- What stands behind the name of a member is its value and the other
members. -/
theorem members?_quote {name : String} {value : Data} {fuel : Nat} {cs rest : List Char}
    (hvalue : value? fuel cs = some (value, rest)) :
    members? (fuel + 1) ((quote name).toList ++ ':' :: (style.space ++ cs))
      = match skipBlanks rest with
        | ',' :: rest => (members? fuel rest).map fun read => ((name, value) :: read.1, read.2)
        | '\x7d' :: rest => some ([(name, value)], rest)
        | _ => none := by
  rw [toList_quote_append, members?, skipBlanks_cons (by decide)]
  simp only [text?_flatMap_escapeChar, String.ofList_toList, Option.bind_eq_bind,
    Option.bind_some]
  rw [skipBlanks_cons (by decide)]
  show (value? _ _).bind _ = _
  rw [value?_append style.isBlank_space, hvalue]
  rfl

/-- Members are read back up to the closing brace. -/
theorem exists_members?_entries {depth : Nat} {close : List Char}
    (hclose : ∀ c ∈ close, IsBlank c) (after : List Char) {name : String} {first : Data}
    {rest : List (String × Data)}
    (h : ∀ entry ∈ (name, first) :: rest, ReadsBack style entry.2) {fuel : Nat}
    (hfuel : (style.data depth first).length + (style.entries depth rest).length < fuel) :
    ∃ others, members? fuel ((quote name).toList ++ ':' :: (style.space ++ (style.data depth first
        ++ (style.entries depth rest ++ (close ++ '\x7d' :: after))))) = some (others, after)
      ∧ List.Forall₂ (EntriesRel Rearranged) ((name, first) :: rest) others := by
  obtain ⟨fuel, rfl⟩ := Nat.exists_eq_add_one_of_ne_zero (Nat.ne_zero_of_lt hfuel)
  have hfirst := h (name, first) List.mem_cons_self depth fuel
    (show (style.data depth first).length ≤ fuel by omega)
  induction rest generalizing name first fuel with
  | nil =>
    obtain ⟨read, hread, hrel⟩ :=
      hfirst _ (endsNumber_append hclose (show ¬ ContinuesNumber '\x7d' by decide) after)
    refine ⟨[(name, read)], ?_, .cons ⟨name, hrel⟩ .nil⟩
    rw [style.entries_nil, List.nil_append, members?_quote hread, skipBlanks_append hclose,
      skipBlanks_cons (by decide)]
    rfl
  | cons entry rest ih =>
    obtain ⟨next, value⟩ := entry
    rw [style.entries_cons] at hfuel ⊢
    simp only [List.length_append, List.length_cons] at hfuel
    obtain ⟨fuel, rfl⟩ := Nat.exists_eq_add_one_of_ne_zero (show fuel ≠ 0 by omega)
    have hvalue : ReadAs fuel (style.data depth value) value :=
      h (next, value) (List.mem_cons_of_mem _ List.mem_cons_self) depth fuel
        (show (style.data depth value).length ≤ fuel by omega)
    obtain ⟨others, hothers, hrels⟩ :=
      ih (fun other hother => h other (List.mem_cons_of_mem _ hother)) fuel (by omega) hvalue
    obtain ⟨read, hread, hrel⟩ := hfirst _
      (endsNumber_cons (show ¬ ContinuesNumber ',' by decide) _)
    refine ⟨(name, read) :: others, ?_, .cons ⟨name, hrel⟩ hrels⟩
    simp only [List.append_assoc, List.cons_append]
    rw [members?_quote hread, skipBlanks_cons (by decide)]
    show (members? _ _).map _ = _
    rw [members?_append (style.isBlank_gap depth), hothers]
    rfl

/-! ## Any data -/

/-- Data without parts is read back if its text is. -/
theorem readsBack_of_scalar {d : Data} (hlist : ∀ first rest, d ≠ .list (first :: rest))
    (hmap : ∀ name value rest, d ≠ .map ((name, value) :: rest))
    (hread : ∀ fuel rest, EndsNumber rest →
      value? (fuel + 1) ((scalar d).toList ++ rest) = some (d, rest)) : ReadsBack style d := by
  intro depth fuel hfuel rest hrest
  rw [style.data_scalar depth d hlist hmap] at hfuel ⊢
  have hnil : (scalar d).toList ≠ [] := fun hnil => by
    have hnone := hread 0 [] fun _ hc => nomatch hc
    rw [hnil] at hnone
    exact nomatch hnone
  have hlength := List.length_pos_iff.2 hnil
  obtain ⟨fuel, rfl⟩ := Nat.exists_eq_add_one_of_ne_zero (show fuel ≠ 0 by omega)
  exact ⟨d, hread fuel rest hrest, .same d⟩

/-- A list is read back if its items are. -/
theorem readsBack_list {items : List Data} (h : ∀ item ∈ items, ReadsBack style item) :
    ReadsBack style (.list items) := by
  cases items with
  | nil =>
    refine readsBack_of_scalar (by simp) (by simp) fun fuel rest _ => ?_
    rw [value?]
    rfl
  | cons first items =>
    intro depth fuel hfuel rest _
    rw [style.data_list] at hfuel ⊢
    simp only [List.length_cons, List.length_append, List.length_nil] at hfuel
    obtain ⟨fuel, rfl⟩ := Nat.exists_eq_add_one_of_ne_zero (show fuel ≠ 0 by omega)
    have hlength : (style.data (depth + 1) first).length
        + (style.items (depth + 1) items).length < fuel := by omega
    obtain ⟨others, hothers, hrels⟩ :=
      exists_items?_items (style.isBlank_gap depth) rest h hlength
    refine ⟨.list others, ?_, .list hrels⟩
    simp only [List.cons_append, List.append_assoc, List.nil_append]
    exact value?_of_items? ((items?_append (style.isBlank_gap _) _ _).trans hothers)

/-- A map whose names differ is read back if what is under them is. -/
theorem readsBack_map {entries : List (String × Data)} (hnames : (entries.map (·.1)).Nodup)
    (h : ∀ entry ∈ entries, ReadsBack style entry.2) : ReadsBack style (.map entries) := by
  cases entries with
  | nil =>
    refine readsBack_of_scalar (by simp) (by simp) fun fuel rest _ => ?_
    rw [value?]
    rfl
  | cons entry entries =>
    obtain ⟨name, first⟩ := entry
    intro depth fuel hfuel rest _
    rw [style.data_map] at hfuel ⊢
    simp only [List.length_cons, List.length_append, List.length_nil] at hfuel
    obtain ⟨fuel, rfl⟩ := Nat.exists_eq_add_one_of_ne_zero (show fuel ≠ 0 by omega)
    have hlength : (style.data (depth + 1) first).length
        + (style.entries (depth + 1) entries).length < fuel := by omega
    obtain ⟨others, hothers, hrels⟩ :=
      exists_members?_entries (style.isBlank_gap depth) rest h hlength
    refine ⟨.map (NameMap.ofList others).entries, ?_, .map hrels ?_⟩
    · simp only [List.cons_append, List.append_assoc, List.nil_append]
      exact value?_of_members? ((members?_append (style.isBlank_gap _) _ _).trans hothers)
    · exact (NameMap.perm_ofList (EntriesRel.names_eq hrels ▸ hnames)).symm

/-- **Data is read back from its text**, in either style, up to the order of
entries. -/
theorem readsBack_of_writable (style : Style) {d : Data} (h : Writable d) : ReadsBack style d := by
  induction h with
  | null =>
    refine readsBack_of_scalar (by simp) (by simp) fun fuel rest _ => ?_
    rw [value?]
    rfl
  | bool value =>
    refine readsBack_of_scalar (by simp) (by simp) fun fuel rest _ => ?_
    cases value <;> (rw [value?]; rfl)
  | int hfits =>
    refine readsBack_of_scalar (by simp) (by simp) fun fuel rest hrest => ?_
    rw [scalar, Text.Numeral.ofInt, String.toList_ofList]
    exact value?_charsOfInt hfits fuel hrest
  | text value =>
    refine readsBack_of_scalar (by simp) (by simp) fun fuel rest _ => value?_quote value fuel rest
  | list _ ih => exact readsBack_list ih
  | map hnames _ ih => exact readsBack_map hnames ih

/-- **A whole text is read back**, with blanks behind it. -/
theorem exists_parse?_data (style : Style) {d : Data} (h : Writable d) {blanks : List Char}
    (hblanks : ∀ c ∈ blanks, IsBlank c) :
    ∃ read, parse? (.ofList (style.data 0 d ++ blanks)) = some read ∧ d.Rearranged read := by
  obtain ⟨read, hread, hrel⟩ := readsBack_of_writable style h 0
    ((style.data 0 d ++ blanks).length + 1)
    (Nat.le_trans (List.sublist_append_left _ _).length_le (Nat.le_succ _)) blanks
    (endsNumber_of_isBlank hblanks)
  have hend : skipBlanks blanks = [] := by
    rw [← List.append_nil blanks, skipBlanks_append hblanks]
    rfl
  refine ⟨read, ?_, hrel⟩
  rw [parse?, String.toList_ofList, hread]
  simp only [Option.bind_eq_bind, Option.bind_some, hend, if_true]

/-- Data is read back from its text over several lines. -/
theorem exists_parse?_pretty {d : Data} (h : Writable d) :
    ∃ read, parse? (pretty d) = some read ∧ d.Rearranged read := by
  have hread := exists_parse?_data .pretty h (List.forall_mem_nil _)
  rwa [List.append_nil, show Style.pretty.data 0 d = (pretty d).toList from rfl,
    String.ofList_toList] at hread

/-- Data is read back from its text on one line. -/
theorem exists_parse?_compact {d : Data} (h : Writable d) :
    ∃ read, parse? (compact d) = some read ∧ d.Rearranged read := by
  have hread := exists_parse?_data .compact h (List.forall_mem_nil _)
  rwa [List.append_nil, show Style.compact.data 0 d = (compact d).toList from rfl,
    String.ofList_toList] at hread

/-- Data is read back from what is printed of it, where the last line ends too. -/
theorem exists_parse?_printed {d : Data} (h : Writable d) :
    ∃ read, parse? (pretty d ++ "\n") = some read ∧ d.Rearranged read := by
  have hfeed : IsBlank '\n' := by decide
  have hread := exists_parse?_data .pretty h (List.forall_mem_singleton.2 hfeed)
  rwa [show Style.pretty.data 0 d = (pretty d).toList from rfl, String.ofList_append,
    String.ofList_toList] at hread

end BuildVariants.Json
