import BuildVariants.Domain
import BuildVariants.Proofs.NameMap

/-!
# Values in their domains

What it is for a checked value to lie in a domain, said of the value alone
(`Domain.Admits`). Whatever a domain makes of a supplied value lies in it
(`Domain.admits_of_accept?`); a default lies in its domain only if whoever
declares the variant sees to it.
-/

namespace BuildVariants

/-! ## Distinct texts -/

/-- Distinct texts stand in increasing order, so none of them stands twice. -/
theorem distinct_sorted (texts : List String) : (distinct texts).Pairwise (· < ·) :=
  NameMap.sorted_iff_names.1 (NameMap.sorted _)

/-- Making texts distinct loses none of them and adds none. -/
theorem mem_distinct {texts : List String} {text : String} :
    text ∈ distinct texts ↔ text ∈ texts := by
  have hinsert (m : NameMap Unit) :
      text ∈ (m.insertMany (texts.map fun t => (t, ()))).names ↔ text ∈ texts ∨ text ∈ m.names := by
    unfold NameMap.insertMany
    induction texts generalizing m with
    | nil => simp
    | cons first rest ih =>
      rw [List.map_cons, List.foldl_cons, ih, NameMap.mem_names_insert, List.mem_cons]
      exact or_left_comm.trans or_assoc.symm
  refine (hinsert .empty).trans (or_iff_left ?_)
  exact List.not_mem_nil

/-- A text names at least one thing, be it the empty text. -/
theorem trimmedPieces_ne_nil (text : String) : trimmedPieces text ≠ [] := by
  unfold trimmedPieces
  rw [ne_eq, List.map_eq_nil_iff]
  exact Text.pieces_ne_nil ',' text.toList

namespace Domain

/-! ## Lying in a domain -/

/-- **A value lies in a domain**, of which it may take several names at once:
it is of the domain's kind, and is one of its names, some of its names in
increasing order, or within its bounds. -/
def Admits (multiple : Bool) : Domain → Value → Prop
  | toggle, .bool _ => True
  | choice names, .text text => multiple = false ∧ text ∈ names
  | choice names, .texts items =>
    multiple = true ∧ items ≠ [] ∧ items.Pairwise (· < ·) ∧ ∀ item ∈ items, item ∈ names
  | integer min max, .int value => within min max value = true
  | checked _, .text _ => True
  | _, _ => False

instance (multiple : Bool) (domain : Domain) (value : Value) :
    Decidable (domain.Admits multiple value) := by
  unfold Admits
  split <;> infer_instance

/-- A value of a toggle is a truth value. -/
theorem exists_bool_of_admits {multiple : Bool} {value : Value} (h : toggle.Admits multiple value) :
    ∃ b, value = .bool b := by
  cases value with
  | bool b => exact ⟨b, rfl⟩
  | int n => cases h
  | text text => cases h
  | texts items => cases h

/-- A value of a choice of one name is one of its names. -/
theorem exists_text_of_admits_choice {names : List String} {value : Value}
    (h : (choice names).Admits false value) : ∃ text ∈ names, value = .text text := by
  cases value with
  | text text => exact ⟨text, h.2, rfl⟩
  | texts items => cases h.1
  | bool b => cases h
  | int n => cases h

theorem exists_text_of_admits_checked {multiple : Bool} {validator : Validator} {value : Value}
    (h : (checked validator).Admits multiple value) : ∃ text, value = .text text := by
  cases value with
  | text text => exact ⟨text, rfl⟩
  | texts items => cases h
  | bool b => cases h
  | int n => cases h

theorem exists_int_of_admits {multiple : Bool} {min max : Option Int64} {value : Value}
    (h : (integer min max).Admits multiple value) : ∃ n, value = .int n := by
  cases value with
  | int n => exact ⟨n, rfl⟩
  | bool b => cases h
  | text text => cases h
  | texts items => cases h

/-- The names that a text selects lie in the domain. -/
theorem admits_of_select? {multiple : Bool} {names : List String} {text : String} {value : Value}
    (h : select? multiple names text = some value) : (choice names).Admits multiple value := by
  unfold select? at h
  split at h
  · next hmultiple =>
    dsimp only at h
    split at h
    · next hall =>
      obtain rfl := Option.some.inj h
      refine ⟨hmultiple, fun hnil => ?_, distinct_sorted _, fun item hitem => ?_⟩
      · obtain ⟨piece, hpiece⟩ := List.exists_mem_of_ne_nil _ (trimmedPieces_ne_nil text)
        have hmem := mem_distinct.2 hpiece
        rw [hnil] at hmem
        exact List.not_mem_nil hmem
      · exact List.contains_iff_mem.1 (List.all_eq_true.1 hall item (mem_distinct.1 hitem))
    · cases h
  · next hsingle =>
    split at h
    · next hmem =>
      obtain rfl := Option.some.inj h
      exact ⟨Bool.eq_false_iff.2 hsingle, List.contains_iff_mem.1 hmem⟩
    · cases h

/-- An integer that is accepted for being within the bounds lies in the domain. -/
theorem admits_of_within {multiple : Bool} {min max : Option Int64} {number : Int64}
    {value : Value} (h : (if within min max number then some (Value.int number) else none)
      = some value) : (integer min max).Admits multiple value := by
  split at h
  · next hwithin =>
    obtain rfl := Option.some.inj h
    exact hwithin
  · cases h

/-- **What a domain makes of a supplied value lies in it.** -/
theorem admits_of_accept? {multiple : Bool} {domain : Domain} {raw : SuppliedValue}
    {value : Value} (h : domain.accept? multiple raw = some value) :
    domain.Admits multiple value := by
  cases domain with
  | toggle =>
    cases raw with
    | bool b =>
      obtain rfl := Option.some.inj h
      trivial
    | text text =>
      obtain ⟨b, _, rfl⟩ := Option.map_eq_some_iff.1 h
      trivial
    | int n => cases h
  | choice names =>
    cases raw with
    | bool b => cases h
    | text text => exact admits_of_select? h
    | int n => exact admits_of_select? h
  | integer min max =>
    cases raw with
    | bool b => cases h
    | int n => exact admits_of_within h
    | text text =>
      rw [accept?] at h
      split at h
      · exact admits_of_within h
      · cases h
  | checked validator =>
    cases raw with
    | bool b => cases h
    | int n => cases h
    | text text =>
      obtain rfl := Option.some.inj h
      trivial

/-! ## Spellings -/

theorem not_isBlank_of_isDigit {c : Char} (h : Text.Numeral.isDigit c = true) :
    Text.isBlank c = false := by
  simp only [Text.Numeral.isDigit, Bool.and_eq_true, decide_eq_true_eq] at h
  simp only [Text.isBlank, Bool.or_eq_false_iff, Bool.and_eq_false_iff, decide_eq_false_iff_not,
    beq_eq_false_iff_ne]
  omega

/-- A numeral holds no white space. -/
theorem not_isBlank_of_mem_write {n : Int64} {c : Char}
    (h : c ∈ (Text.Numeral.write n).toList) : Text.isBlank c = false := by
  have hdigits (hc : c ∈ Text.Numeral.digits n.toInt.natAbs) : Text.isBlank c = false :=
    not_isBlank_of_isDigit (Text.Numeral.isDigit_of_mem_digits hc)
  rw [Text.Numeral.write, Text.Numeral.ofInt, String.toList_ofList, Text.Numeral.charsOfInt] at h
  split at h
  · rcases List.mem_cons.1 h with rfl | h
    · decide
    · exact hdigits h
  · exact hdigits h

/-- A numeral is not changed by trimming. -/
theorem trim_write (n : Int64) : Text.trim (Text.Numeral.write n) = Text.Numeral.write n := by
  rw [Text.trim, Text.trimChars_eq_self
    (fun c hc => not_isBlank_of_mem_write (List.mem_of_head? hc))
    (fun c hc => not_isBlank_of_mem_write (List.mem_of_getLast? hc)), String.ofList_toList]

/-- **A value may as well be supplied as its text**: what a domain accepts it
accepts spelled out, and it stands for the same. -/
theorem accept?_text_render {multiple : Bool} {domain : Domain} {raw : SuppliedValue}
    {value : Value} (h : domain.accept? multiple raw = some value) :
    domain.accept? multiple (.text raw.render) = some value := by
  cases raw with
  | text text => exact h
  | bool b =>
    cases domain with
    | toggle =>
      rw [← h]
      cases b <;> rfl
    | choice names => cases h
    | integer min max => cases h
    | checked validator => cases h
  | int n =>
    cases domain with
    | toggle => cases h
    | choice names => exact h
    | integer min max =>
      rw [SuppliedValue.render, accept?, trim_write, Text.Numeral.read?_write]
      exact h
    | checked validator => cases h

end Domain

end BuildVariants
