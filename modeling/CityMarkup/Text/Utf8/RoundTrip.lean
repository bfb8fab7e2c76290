import CityMarkup.Text.Utf8

/-!
# Reading back the bytes of a text

The bytes of a character are read back as that character, wherever they stand
in a text.  Hence reading the bytes of a text gives the text back.
-/

namespace CityMarkup

namespace Utf8

theorem toNat_toUInt8 {n : Nat} (h : n < 256) : n.toUInt8.toNat = n := by
  simpa using Nat.mod_eq_of_lt h

theorem lead?_one {n : Nat} (h : n < 0x80) :
    lead? n = some ⟨0, 0x80, 0xBF, n⟩ := by
  simp [lead?, h]

/-- A byte between the bounds continues a sequence. -/
theorem decodeFrom_next {index seen following lowest highest value n : Nat}
    (bytes : List UInt8) (hlow : lowest ≤ n) (hhigh : n ≤ highest)
    (hbyte : n < 256) (hmore : 1 < following) :
    decodeFrom index (some ⟨seen, following, lowest, highest, value⟩)
        (n.toUInt8 :: bytes) =
      decodeFrom index
        (some ⟨seen + 1, following - 1, 0x80, 0xBF,
          value * 0x40 + (n - 0x80)⟩) bytes := by
  have hlast : ¬following ≤ 1 := by omega
  simp only [decodeFrom, toNat_toUInt8 hbyte, hlow, hhigh, and_self, if_true,
    hlast, if_false]

/-- The last byte of a sequence completes a character. -/
theorem decodeFrom_last {index seen lowest highest value n : Nat}
    (bytes : List UInt8) (hlow : lowest ≤ n) (hhigh : n ≤ highest)
    (hbyte : n < 256) :
    decodeFrom index (some ⟨seen, 1, lowest, highest, value⟩)
        (n.toUInt8 :: bytes) =
      (decodeFrom (index + seen + 1) none bytes).map
        (Char.ofNat (value * 0x40 + (n - 0x80)) :: ·) := by
  simp only [decodeFrom, toNat_toUInt8 hbyte, hlow, hhigh, and_self, if_true,
    Nat.le_refl]

/-- A first byte begins a sequence of several. -/
theorem decodeFrom_first {index n : Nat} {lead : Lead} (bytes : List UInt8)
    (hbyte : n < 256) (hlead : lead? n = some lead)
    (hmore : lead.following ≠ 0) :
    decodeFrom index none (n.toUInt8 :: bytes) =
      decodeFrom index (some ⟨1, lead⟩) bytes := by
  simp only [decodeFrom, toNat_toUInt8 hbyte, hlead, hmore, if_false]

/-- Reading the bytes of a character gives the character back. -/
theorem decodeFrom_encodeChar (c : Char) (index : Nat) (bytes : List UInt8) :
    decodeFrom index none (encodeChar c ++ bytes) =
      (decodeFrom (index + (encodeChar c).length) none bytes).map
        (c :: ·) := by
  have hvalid : c.toNat < 0xD800 ∨ 0xDFFF < c.toNat ∧ c.toNat < 0x110000 :=
    c.valid
  have hc : c = Char.ofNat c.toNat := (Char.ofNat_toNat c).symm
  simp only [encodeChar]
  generalize c.toNat = n at hvalid hc
  subst hc
  split
  · rename_i hn
    simp [decodeFrom, toNat_toUInt8 (show n < 256 by omega), lead?_one hn]
  · split
    · rename_i hn
      have hlead : lead? (0xC0 + n / 0x40) =
          some ⟨1, 0x80, 0xBF, 0xC0 + n / 0x40 - 0xC0⟩ := by
        simp only [lead?]
        rw [if_neg (by omega), if_neg (by omega), if_pos (by omega)]
      simp only [List.cons_append, List.nil_append, List.length_cons,
        List.length_nil]
      rw [decodeFrom_first _ (by omega) hlead (by simp),
        decodeFrom_last _ (by omega) (by omega) (by omega)]
      rw [show (0xC0 + n / 0x40 - 0xC0) * 0x40 + (0x80 + n % 0x40 - 0x80) = n
        by omega]
    · split
      · rename_i hn
        have hlead : ∃ low high, lead? (0xE0 + n / 0x1000) =
            some ⟨2, low, high, 0xE0 + n / 0x1000 - 0xE0⟩ ∧
              low ≤ 0x80 + n / 0x40 % 0x40 ∧
              0x80 + n / 0x40 % 0x40 ≤ high := by
          simp only [lead?]
          rw [if_neg (by omega), if_neg (by omega), if_neg (by omega)]
          by_cases h0 : 0xE0 + n / 0x1000 = 0xE0
          · rw [if_pos h0]
            exact ⟨0xA0, 0xBF, by simp; omega, by omega, by omega⟩
          · rw [if_neg h0]
            by_cases hD : 0xE0 + n / 0x1000 = 0xED
            · rw [if_pos hD]
              exact ⟨0x80, 0x9F, rfl, by omega, by omega⟩
            · rw [if_neg hD, if_pos (by omega)]
              exact ⟨0x80, 0xBF, rfl, by omega, by omega⟩
        obtain ⟨low, high, hlead, hlow, hhigh⟩ := hlead
        simp only [List.cons_append, List.nil_append, List.length_cons,
          List.length_nil]
        rw [decodeFrom_first _ (by omega) hlead (by simp),
          decodeFrom_next _ hlow hhigh (by omega) (by omega),
          decodeFrom_last _ (by omega) (by omega) (by omega)]
        rw [show ((0xE0 + n / 0x1000 - 0xE0) * 0x40 +
            (0x80 + n / 0x40 % 0x40 - 0x80)) * 0x40 +
            (0x80 + n % 0x40 - 0x80) = n by omega]
      · rename_i hn
        have hlead : ∃ low high, lead? (0xF0 + n / 0x40000) =
            some ⟨3, low, high, 0xF0 + n / 0x40000 - 0xF0⟩ ∧
              low ≤ 0x80 + n / 0x1000 % 0x40 ∧
              0x80 + n / 0x1000 % 0x40 ≤ high := by
          simp only [lead?]
          rw [if_neg (by omega), if_neg (by omega), if_neg (by omega),
            if_neg (by omega), if_neg (by omega), if_neg (by omega)]
          by_cases h0 : 0xF0 + n / 0x40000 = 0xF0
          · rw [if_pos h0]
            exact ⟨0x90, 0xBF, by simp; omega, by omega, by omega⟩
          · rw [if_neg h0]
            by_cases h4 : 0xF0 + n / 0x40000 < 0xF4
            · rw [if_pos h4]
              exact ⟨0x80, 0xBF, rfl, by omega, by omega⟩
            · rw [if_neg h4, if_pos (by omega)]
              exact ⟨0x80, 0x8F, rfl, by omega, by omega⟩
        obtain ⟨low, high, hlead, hlow, hhigh⟩ := hlead
        simp only [List.cons_append, List.nil_append, List.length_cons,
          List.length_nil]
        rw [decodeFrom_first _ (by omega) hlead (by simp),
          decodeFrom_next _ hlow hhigh (by omega) (by omega),
          decodeFrom_next _ (by omega) (by omega) (by omega) (by omega),
          decodeFrom_last _ (by omega) (by omega) (by omega)]
        rw [show (((0xF0 + n / 0x40000 - 0xF0) * 0x40 +
            (0x80 + n / 0x1000 % 0x40 - 0x80)) * 0x40 +
            (0x80 + n / 0x40 % 0x40 - 0x80)) * 0x40 +
            (0x80 + n % 0x40 - 0x80) = n by omega]

theorem decodeFrom_encode (cs : List Char) (index : Nat) :
    decodeFrom index none (encode cs) = .ok cs := by
  induction cs generalizing index with
  | nil => rfl
  | cons c rest ih =>
    have h : encode (c :: rest) = encodeChar c ++ encode rest := rfl
    rw [h, decodeFrom_encodeChar, ih]
    rfl

/-- Reading the bytes of a text gives the text back. -/
theorem decode_encode (cs : List Char) : decode (encode cs) = .ok cs :=
  decodeFrom_encode cs 0

end Utf8

end CityMarkup
