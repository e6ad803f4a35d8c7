/-!
# The order of names is the order of their bytes

Maps order names character by character. What is promised to users is the
order of the UTF-8 bytes, and the two agree (`bytes_lt_iff`): a character with
a greater code has an encoding that is greater at the first byte where the two
differ, whatever follows. So "the first bad assignment" means the same by
either reading.
-/

namespace BuildVariants.Text

/-- The UTF-8 bytes of a text. -/
def bytes (text : String) : List UInt8 := text.toUTF8.data.toList

/-- The bytes of a text are those of its characters one after the other. -/
theorem bytes_eq_flatMap (text : String) :
    bytes text = text.toList.flatMap String.utf8EncodeChar := by
  rw [bytes, String.toUTF8_eq_toByteArray, ← String.utf8Encode_toList]
  exact List.toList_data_toByteArray

/-! ## One character -/

/-- **The encoding of a character, by its length**: the digits of its code to
the base 64, most significant first, each with the mark of its place. -/
theorem utf8EncodeChar_cases (c : Char) :
    (c.toNat < 0x80 ∧ String.utf8EncodeChar c = [.ofNat c.toNat]) ∨
    (0x80 ≤ c.toNat ∧ c.toNat < 0x800 ∧
      String.utf8EncodeChar c
        = [.ofNat (c.toNat / 64 + 0xc0), .ofNat (c.toNat % 64 + 0x80)]) ∨
    (0x800 ≤ c.toNat ∧ c.toNat < 0x10000 ∧
      String.utf8EncodeChar c
        = [.ofNat (c.toNat / 4096 + 0xe0), .ofNat (c.toNat / 64 % 64 + 0x80),
          .ofNat (c.toNat % 64 + 0x80)]) ∨
    (0x10000 ≤ c.toNat ∧ c.toNat < 0x110000 ∧
      String.utf8EncodeChar c
        = [.ofNat (c.toNat / 262144 + 0xf0), .ofNat (c.toNat / 4096 % 64 + 0x80),
          .ofNat (c.toNat / 64 % 64 + 0x80), .ofNat (c.toNat % 64 + 0x80)]) := by
  have hbound : c.val.toNat < 0x110000 := by
    rcases c.valid with hv | ⟨_, hv⟩
    · exact Nat.lt_trans hv (by decide)
    · exact hv
  unfold String.utf8EncodeChar Char.toNat
  generalize c.val.toNat = m at *
  rcases Nat.lt_or_ge m 0x80 with h1 | h1
  · exact .inl ⟨h1, if_pos (by omega)⟩
  rcases Nat.lt_or_ge m 0x800 with h2 | h2
  · refine .inr (.inl ⟨h1, h2, ?_⟩)
    rw [if_neg (by omega), if_pos (by omega), Nat.mod_eq_of_lt (by omega : m / 64 < 32)]
  rcases Nat.lt_or_ge m 0x10000 with h3 | h3
  · refine .inr (.inr (.inl ⟨h2, h3, ?_⟩))
    rw [if_neg (by omega), if_neg (by omega), if_pos (by omega),
      Nat.mod_eq_of_lt (by omega : m / 4096 < 16)]
  · refine .inr (.inr (.inr ⟨h3, hbound, ?_⟩))
    rw [if_neg (by omega), if_neg (by omega), if_neg (by omega),
      Nat.mod_eq_of_lt (by omega : m / 262144 < 8)]

/-- The smaller of two numbers has the smaller digit to the base 64 where the
two first differ. -/
theorem digits_lt {m n : Nat} (h : m < n) :
    m / 262144 < n / 262144 ∨
      m / 262144 = n / 262144 ∧ (m / 4096 % 64 < n / 4096 % 64 ∨
        m / 4096 % 64 = n / 4096 % 64 ∧ (m / 64 % 64 < n / 64 % 64 ∨
          m / 64 % 64 = n / 64 % 64 ∧ m % 64 < n % 64)) := by
  omega

/-- **A greater character has a greater encoding,** whatever follows either of
them. -/
theorem utf8EncodeChar_append_lt {c d : Char} (h : c < d) (s t : List UInt8) :
    String.utf8EncodeChar c ++ s < String.utf8EncodeChar d ++ t := by
  have hlt : c.toNat < d.toNat := h
  -- encodings of different lengths differ in the mark of the first byte, and
  -- those of one length are compared digit by digit
  rcases utf8EncodeChar_cases c with ⟨hm, hc⟩ | ⟨hm, hm', hc⟩ | ⟨hm, hm', hc⟩ | ⟨hm, hm', hc⟩ <;>
    rcases utf8EncodeChar_cases d with
      ⟨hn, hd⟩ | ⟨hn, hn', hd⟩ | ⟨hn, hn', hd⟩ | ⟨hn, hn', hd⟩ <;>
    rw [hc, hd] <;>
    simp only [List.cons_append, List.nil_append, List.cons_lt_cons_iff,
      UInt8.lt_iff_toNat_lt, ← UInt8.toNat_inj, UInt8.toNat_ofNat'] <;>
    clear hc hd h <;>
    try omega
  -- only two encodings of four bytes are left
  rcases digits_lt hlt with h3 | ⟨h3, h2 | ⟨h2, h1 | ⟨h1, h0⟩⟩⟩
  · exact .inl (by omega)
  · exact .inr ⟨by omega, .inl (by omega)⟩
  · exact .inr ⟨by omega, .inr ⟨by omega, .inl (by omega)⟩⟩
  · exact .inr ⟨by omega, .inr ⟨by omega, .inr ⟨by omega, .inl (by omega)⟩⟩⟩

/-! ## Texts -/

/-- A text that comes first by its characters comes first by its bytes. -/
theorem flatMap_utf8EncodeChar_lt {cs ds : List Char} (h : cs < ds) :
    cs.flatMap String.utf8EncodeChar < ds.flatMap String.utf8EncodeChar := by
  induction cs generalizing ds with
  | nil =>
    cases ds with
    | nil => exact absurd h (List.lt_irrefl [])
    | cons d ds =>
      rw [List.flatMap_nil, List.flatMap_cons]
      rcases utf8EncodeChar_cases d with ⟨_, hd⟩ | ⟨_, _, hd⟩ | ⟨_, _, hd⟩ | ⟨_, _, hd⟩ <;>
        rw [hd] <;> exact List.nil_lt_cons _ _
  | cons c cs ih =>
    cases ds with
    | nil => exact absurd h (List.not_lt_nil _)
    | cons d ds =>
      rw [List.flatMap_cons, List.flatMap_cons]
      rcases List.cons_lt_cons_iff.1 h with hlt | ⟨rfl, hrest⟩
      · exact utf8EncodeChar_append_lt hlt _ _
      · exact List.append_left_lt (ih hrest)

/-- **Names in order are names in the order of their bytes.** -/
theorem bytes_lt_iff {first second : String} : bytes first < bytes second ↔ first < second := by
  have forward {a b : String} (h : a < b) : bytes a < bytes b := by
    rw [bytes_eq_flatMap, bytes_eq_flatMap]
    exact flatMap_utf8EncodeChar_lt (String.lt_iff.1 h)
  refine ⟨fun h => ?_, forward⟩
  refine Decidable.byContradiction fun hge => ?_
  rcases Decidable.em (second < first) with hlt | hle
  · exact List.lt_asymm h (forward hlt)
  · have heq : first = second := String.le_antisymm (String.not_lt.1 hle) (String.not_lt.1 hge)
    exact List.lt_irrefl _ (heq ▸ h)

end BuildVariants.Text
