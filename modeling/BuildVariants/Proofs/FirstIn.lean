import Mathlib.Data.List.Forall2

/-!
# The first item of a list with a property

Declarations, rules and rows are kept in lists, and the first one that applies
is the one that counts. `FirstIn` says so of an item without saying how it is
looked for.
-/

namespace BuildVariants

variable {α β γ : Type}

/-- **The first item of a list with a property**: it has the property, and no
item that stands before it does. -/
inductive FirstIn (p : α → Prop) : List α → α → Prop
  | here {item : α} {rest : List α} : p item → FirstIn p (item :: rest) item
  | there {earlier item : α} {rest : List α} : ¬ p earlier → FirstIn p rest item →
      FirstIn p (earlier :: rest) item

namespace FirstIn

variable {p : α → Prop} {q : β → Prop} {items : List α} {item : α}

theorem property (h : FirstIn p items item) : p item := by
  induction h with
  | here hitem => exact hitem
  | there _ _ ih => exact ih

theorem mem (h : FirstIn p items item) : item ∈ items := by
  induction h with
  | here => exact List.mem_cons_self
  | there _ _ ih => exact List.mem_cons_of_mem _ ih

/-- Only one item is the first. -/
theorem unique {other : α} (h : FirstIn p items item) (hother : FirstIn p items other) :
    item = other := by
  induction h with
  | here hitem =>
    cases hother with
    | here => rfl
    | there hnot => exact absurd hitem hnot
  | there hnot _ ih =>
    cases hother with
    | here hitem => exact absurd hitem hnot
    | there _ hrest => exact ih hrest

/-- Some item is the first one if any has the property. -/
theorem exists_iff : (∃ item, FirstIn p items item) ↔ ∃ item ∈ items, p item := by
  induction items with
  | nil =>
    refine ⟨fun ⟨item, hfirst⟩ => ?_, fun ⟨item, hmem, _⟩ => absurd hmem List.not_mem_nil⟩
    cases hfirst
  | cons first rest ih =>
    simp only [List.mem_cons, exists_eq_or_imp, ← ih]
    constructor
    · rintro ⟨item, hitem | ⟨_, hrest⟩⟩
      · exact .inl hitem
      · exact .inr ⟨item, hrest⟩
    · intro h
      by_cases hfirst : p first
      · exact ⟨first, .here hfirst⟩
      · obtain ⟨item, hrest⟩ := h.resolve_left hfirst
        exact ⟨item, .there hfirst hrest⟩

/-- **Looking an item up finds the first one with the property.** -/
theorem find?_eq_some_iff {test : α → Bool} :
    items.find? test = some item ↔ FirstIn (test · = true) items item := by
  induction items with
  | nil =>
    refine ⟨fun h => ?_, fun h => ?_⟩ <;> cases h
  | cons first rest ih =>
    cases htest : test first with
    | true =>
      rw [List.find?_cons_of_pos htest]
      constructor
      · rintro ⟨⟩
        exact .here htest
      · rintro (_ | ⟨hnot, _⟩)
        · rfl
        · exact absurd htest hnot
    | false =>
      have hnot : ¬ test first = true := Bool.eq_false_iff.1 htest
      rw [List.find?_cons_of_neg hnot, ih]
      constructor
      · exact .there hnot
      · rintro (hfirst | ⟨_, hrest⟩)
        · exact absurd hfirst hnot
        · exact hrest

/-- In two lists that agree item by item, on the property and on what is made of an
item, the first items stand side by side. -/
theorem exists_of_forall₂ {f : α → γ} {g : β → γ} {others : List β}
    (h : List.Forall₂ (fun a b => (p a ↔ q b) ∧ f a = g b) items others)
    (hfirst : FirstIn p items item) : ∃ other, FirstIn q others other ∧ f item = g other := by
  induction h with
  | nil => cases hfirst
  | cons hagree _ ih =>
    cases hfirst with
    | here hitem => exact ⟨_, .here (hagree.1.1 hitem), hagree.2⟩
    | there hnot hrest =>
      obtain ⟨other, hother, heq⟩ := ih hrest
      exact ⟨other, .there (fun hq => hnot (hagree.1.2 hq)) hother, heq⟩

/-- **Lists that agree item by item have the same made of their first
items.** -/
theorem exists_iff_of_forall₂ {f : α → γ} {g : β → γ} {others : List β} {result : γ}
    (h : List.Forall₂ (fun a b => (p a ↔ q b) ∧ f a = g b) items others) :
    (∃ item, FirstIn p items item ∧ result = f item)
      ↔ ∃ other, FirstIn q others other ∧ result = g other := by
  constructor
  · rintro ⟨item, hfirst, rfl⟩
    exact exists_of_forall₂ h hfirst
  · rintro ⟨other, hfirst, rfl⟩
    exact exists_of_forall₂ (h.flip.imp fun _ _ hagree => ⟨hagree.1.symm, hagree.2.symm⟩) hfirst

end FirstIn

end BuildVariants
