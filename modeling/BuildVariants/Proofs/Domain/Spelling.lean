import BuildVariants.Proofs.Domain
import BuildVariants.Schema
import Mathlib.Data.List.Nodup

/-!
# Spellings of a value

One value can be supplied in many spellings: typed as a file has it or as the
text of that, a truth value in any mix of cases, a number with blanks around it
or zeros in front, names in any order and more than once. A checked value has a
text of its own, and what is said here is that this text is one of its spellings
(`Domain.accept?_text_render_value`). So a value that is copied from a listing
stands for itself, and checking a value is bringing it to a normal form.

Only names that are taken several at once need an argument. Their text is put
together with commas and has to come apart at the same places, and what comes
apart is trimmed, sorted and freed of repeats once more. That all of this is done
to the pieces already is what `IsPiece` and `distinct_eq_self` say.
-/

namespace BuildVariants

/-! ## Pieces between commas -/

/-- **A piece of a list**: a text without commas and without white space around
it. -/
def IsPiece (text : String) : Prop :=
  ',' ∉ text.toList ∧ Text.trimChars text.toList = text.toList

theorem isPiece_of_mem_trimmedPieces {text piece : String} (h : piece ∈ trimmedPieces text) :
    IsPiece piece := by
  obtain ⟨chars, hchars, rfl⟩ := List.mem_map.1 h
  unfold IsPiece
  rw [String.toList_ofList]
  have huncut : ',' ∉ chars := Text.not_mem_of_mem_pieces hchars
  exact ⟨fun hcomma => huncut ((Text.trimChars_sublist chars).mem hcomma),
    Text.trimChars_trimChars chars⟩

/-- **A list of pieces comes apart at its commas**, and its pieces are left as
they are. -/
theorem trimmedPieces_intercalate {items : List String} (hne : items ≠ [])
    (h : ∀ item ∈ items, IsPiece item) : trimmedPieces (",".intercalate items) = items := by
  have hchars : (",".intercalate items).toList = Text.join ',' (items.map String.toList) := by
    rw [String.toList_intercalate, Text.join_eq_intercalate]
    rfl
  have hcommas : ∀ chars ∈ items.map String.toList, ',' ∉ chars := by
    intro chars hmem
    obtain ⟨item, hitem, rfl⟩ := List.mem_map.1 hmem
    exact (h item hitem).1
  have htrimmed : ∀ item ∈ items, String.ofList (Text.trimChars item.toList) = item := by
    intro item hitem
    rw [(h item hitem).2, String.ofList_toList]
  rw [trimmedPieces, hchars, Text.pieces_join (mt List.map_eq_nil_iff.1 hne) hcommas,
    List.map_map]
  exact (List.map_congr_left htrimmed).trans (List.map_id items)

/-- Texts in increasing order without repeats are told by which texts they are. -/
theorem eq_of_increasing {first second : List String} (hfirst : first.Pairwise (· < ·))
    (hsecond : second.Pairwise (· < ·)) (h : ∀ text, text ∈ first ↔ text ∈ second) :
    first = second := by
  have hsame : first.Perm second :=
    (List.perm_ext_iff_of_nodup hfirst.nodup hsecond.nodup).2 h
  exact hsame.eq_of_pairwise (fun _ _ _ _ hlt hgt => absurd hgt (String.lt_asymm hlt)) hfirst
    hsecond

/-- Texts that are in increasing order without repeats are left as they are. -/
theorem distinct_eq_self {texts : List String} (h : texts.Pairwise (· < ·)) :
    distinct texts = texts :=
  eq_of_increasing (distinct_sorted texts) h fun _ => mem_distinct

namespace Domain

/-! ## Names -/

theorem select?_single_eq_some_iff {names : List String} {text : String} {value : Value} :
    select? false names text = some value ↔ text ∈ names ∧ value = .text text := by
  rw [select?, if_neg Bool.false_ne_true, Option.ite_none_right_eq_some, List.contains_iff_mem,
    Option.some.injEq, eq_comm (a := value)]

/-- **Several names are selected** if every piece is declared, and then they are
the pieces in increasing order without repeats. -/
theorem select?_multiple_eq_some_iff {names : List String} {text : String} {value : Value} :
    select? true names text = some value
      ↔ (∀ piece ∈ trimmedPieces text, piece ∈ names)
        ∧ value = .texts (distinct (trimmedPieces text)) := by
  rw [select?, if_pos rfl, Option.ite_none_right_eq_some, List.all_eq_true, Option.some.injEq,
    eq_comm (a := value)]
  simp only [List.contains_iff_mem]

/-- The names that are selected are selected by their own text. -/
theorem select?_render {multiple : Bool} {names : List String} {text : String} {value : Value}
    (h : select? multiple names text = some value) :
    select? multiple names value.render = some value := by
  cases multiple with
  | false =>
    obtain ⟨hmem, rfl⟩ := select?_single_eq_some_iff.1 h
    exact select?_single_eq_some_iff.2 ⟨hmem, rfl⟩
  | true =>
    obtain ⟨hnames, rfl⟩ := select?_multiple_eq_some_iff.1 h
    obtain ⟨_, hne, hsorted, _⟩ := admits_of_select? h
    -- the selected names are among the pieces of the text they come from
    have hpieces : trimmedPieces (",".intercalate (distinct (trimmedPieces text)))
        = distinct (trimmedPieces text) :=
      trimmedPieces_intercalate hne fun item hitem =>
        isPiece_of_mem_trimmedPieces (mem_distinct.1 hitem)
    rw [Value.render, select?_multiple_eq_some_iff, hpieces, distinct_eq_self hsorted]
    exact ⟨fun piece hpiece => hnames piece (mem_distinct.1 hpiece), rfl⟩

/-! ## Values of every kind -/

/-- **A value that a domain accepts is accepted as its own text**, and it stands
for itself. -/
theorem accept?_text_render_value {multiple : Bool} {domain : Domain} {raw : SuppliedValue}
    {value : Value} (h : domain.accept? multiple raw = some value) :
    domain.accept? multiple (.text value.render) = some value := by
  have hadmits := admits_of_accept? h
  cases domain with
  | toggle =>
    obtain ⟨b, rfl⟩ := exists_bool_of_admits hadmits
    cases b <;> rfl
  | choice names =>
    have hselected : select? multiple names raw.render = some value := accept?_text_render h
    exact select?_render hselected
  | integer min max =>
    obtain ⟨n, rfl⟩ := exists_int_of_admits hadmits
    have hwithin : within min max n = true := hadmits
    rw [Value.render, accept?, trim_write, Text.Numeral.read?_write]
    exact if_pos hwithin
  | checked validator =>
    obtain ⟨text, rfl⟩ := exists_text_of_admits_checked hadmits
    rfl

end Domain

/-! ## Checking -/

namespace Variant

/-- **A supplied value is accepted** if its shape is right and the validator has
nothing against what it stands for. -/
theorem validate_eq_ok_iff {variant : Variant} {files : Files} {raw : SuppliedValue}
    {value : Value} :
    variant.validate files raw = .ok value
      ↔ variant.domain.accept? variant.multiple raw = some value
        ∧ variant.failure? files value = none := by
  unfold validate shape
  cases variant.domain.accept? variant.multiple raw with
  | none => simp
  | some bound =>
    simp only [Option.some.injEq]
    constructor
    · intro h
      split at h
      · cases h
      · next hnone =>
        obtain rfl := Except.ok.inj h
        exact ⟨rfl, hnone⟩
    · rintro ⟨rfl, hnone⟩
      rw [hnone]

/-- A variant without a validator checks the shape and nothing else. -/
theorem validate_eq_shape {variant : Variant}
    (hdomain : ∀ validator, variant.domain ≠ .checked validator) (files : Files)
    (raw : SuppliedValue) : variant.validate files raw = variant.shape raw := by
  have hpasses (value : Value) : variant.failure? files value = none := by
    unfold failure?
    split
    · next hchecked => exact absurd hchecked (hdomain _)
    · rfl
  unfold validate
  cases variant.shape raw with
  | error error => rfl
  | ok value => simp only [hpasses value]

theorem shape_eq_ok_iff {variant : Variant} {raw : SuppliedValue} {value : Value} :
    variant.shape raw = .ok value
      ↔ variant.domain.accept? variant.multiple raw = some value := by
  unfold shape
  cases variant.domain.accept? variant.multiple raw <;> simp

/-- **The shape is wrong** if the domain has no place for the supplied value, which is
reported as it was supplied. -/
theorem shape_eq_error_iff {variant : Variant} {raw : SuppliedValue} {error : ValidationError} :
    variant.shape raw = .error error
      ↔ variant.domain.accept? variant.multiple raw = none
        ∧ error = .invalidDomain variant.name raw.render variant.domain.allowed := by
  unfold shape
  cases variant.domain.accept? variant.multiple raw <;> simp [eq_comm]

/-- **The spelling of a value does not matter.** A supplied value that is accepted
may as well be supplied as its text, or as the text of what it stands for, and is
accepted with the same value each time. -/
theorem validate_spellings {variant : Variant} {files : Files} {raw : SuppliedValue}
    {value : Value} (h : variant.validate files raw = .ok value) :
    variant.validate files (.text raw.render) = .ok value
      ∧ variant.validate files (.text value.render) = .ok value := by
  obtain ⟨haccept, hpasses⟩ := validate_eq_ok_iff.1 h
  exact ⟨validate_eq_ok_iff.2 ⟨Domain.accept?_text_render haccept, hpasses⟩,
    validate_eq_ok_iff.2 ⟨Domain.accept?_text_render_value haccept, hpasses⟩⟩

/-- A variant that takes several architectures, one of them without a name and
one with a blank inside. -/
def architectures : Variant :=
  (choice "cuda_arch" ["70", "", "80 beta", "60"] "70" "GPU architectures.").multi

/-- Names in disorder, with blanks, a repeat and an empty one among them, and how
they are listed. -/
theorem validate_listed_architectures :
    let files : Files := .ofList []
    let raw : SuppliedValue := .text " 80 beta,\t70,, 60 ,70"
    let value : Value := .texts ["", "60", "70", "80 beta"]
    architectures.validate files raw = .ok value
      ∧ value.render = ",60,70,80 beta"
      ∧ architectures.validate files (.text raw.render) = .ok value
      ∧ architectures.validate files (.text value.render) = .ok value := by
  intro files raw value
  have h : architectures.validate files raw = .ok value :=
    validate_eq_ok_iff.2 ⟨by decide +kernel, rfl⟩
  exact ⟨h, by decide +kernel, validate_spellings h⟩

end Variant

end BuildVariants
