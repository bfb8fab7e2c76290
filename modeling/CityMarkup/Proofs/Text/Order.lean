import CityMarkup.Text.Utf8.RoundTrip

/-!
# The order of texts and of their bytes

Texts are compared character by character, and the bytes of texts byte by
byte.  The two orders are the same: a character that needs more bytes begins
with a larger byte, and among characters of the same length the bytes are the
digits of the character to a fixed base, the leading one first.
-/

namespace CityMarkup

namespace Utf8

/-- The first byte of the character with a given number. -/
def leadByte (n : Nat) : Nat :=
  if n < 0x80 then n
  else if n < 0x800 then 0xC0 + n / 0x40
  else if n < 0x10000 then 0xE0 + n / 0x1000
  else 0xF0 + n / 0x40000

/-- The other bytes of the character with a given number. -/
def tailBytes (n : Nat) : List UInt8 :=
  if n < 0x80 then
    []
  else if n < 0x800 then
    [(0x80 + n % 0x40).toUInt8]
  else if n < 0x10000 then
    [(0x80 + n / 0x40 % 0x40).toUInt8, (0x80 + n % 0x40).toUInt8]
  else
    [(0x80 + n / 0x1000 % 0x40).toUInt8, (0x80 + n / 0x40 % 0x40).toUInt8,
      (0x80 + n % 0x40).toUInt8]

theorem encodeChar_eq_cons (c : Char) :
    encodeChar c = (leadByte c.toNat).toUInt8 :: tailBytes c.toNat := by
  simp only [encodeChar, leadByte, tailBytes]
  by_cases hone : c.toNat < 0x80
  · simp only [if_pos hone]
  · by_cases htwo : c.toNat < 0x800
    · simp only [if_neg hone, if_pos htwo]
    · by_cases hthree : c.toNat < 0x10000
      · simp only [if_neg hone, if_neg htwo, if_pos hthree]
      · simp only [if_neg hone, if_neg htwo, if_neg hthree]

theorem leadByte_le_leadByte {m n : Nat} (h : m ≤ n) :
    leadByte m ≤ leadByte n := by
  simp only [leadByte]
  split
  · split
    · exact h
    · split
      · omega
      · split <;> omega
  · split
    · rw [if_neg (by omega)]
      split
      · omega
      · split <;> omega
    · split
      · rw [if_neg (by omega), if_neg (by omega)]
        split <;> omega
      · rw [if_neg (by omega), if_neg (by omega), if_neg (by omega)]
        omega

theorem leadByte_lt {n : Nat} (h : n < 0x110000) : leadByte n < 256 := by
  simp only [leadByte]
  split
  · omega
  · split
    · omega
    · split <;> omega

theorem toUInt8_cons_lt {m n : Nat} (hn : n < 256) (h : m < n)
    (x y : List UInt8) : m.toUInt8 :: x < n.toUInt8 :: y := by
  rw [List.cons_lt_cons_iff, UInt8.lt_iff_toNat_lt, toNat_toUInt8 hn,
    toNat_toUInt8 (by omega)]
  exact Or.inl h

/-- The last digit decides between numbers that agree in all others. -/
theorem lastDigit_cons_lt {m n : Nat} (h : m < n) (hupper : m / 0x40 = n / 0x40)
    (x y : List UInt8) :
    (0x80 + m % 0x40).toUInt8 :: x < (0x80 + n % 0x40).toUInt8 :: y :=
  toUInt8_cons_lt (by omega) (by omega) x y

/-- A digit decides between numbers that agree in all digits before it, unless
they agree in this one too. -/
theorem digit_cons_lt {m n k : Nat} (h : m ≤ n)
    (hupper : m / (k * 0x40) = n / (k * 0x40)) {x y : List UInt8}
    (hrest : m / k = n / k → x < y) :
    (0x80 + m / k % 0x40).toUInt8 :: x <
      (0x80 + n / k % 0x40).toUInt8 :: y := by
  rw [← Nat.div_div_eq_div_mul, ← Nat.div_div_eq_div_mul] at hupper
  have hle : m / k ≤ n / k := Nat.div_le_div_right h
  by_cases hdigit : m / k = n / k
  · rw [hdigit, List.cons_lt_cons_iff]
    exact Or.inr ⟨rfl, hrest hdigit⟩
  · exact toUInt8_cons_lt (by omega) (by omega) x y

/-- Among characters with the same first byte, the other bytes decide. -/
theorem tailBytes_append_lt {m n : Nat} (h : m < n)
    (hlead : leadByte m = leadByte n) (x y : List UInt8) :
    tailBytes m ++ x < tailBytes n ++ y := by
  simp only [leadByte] at hlead
  simp only [tailBytes]
  by_cases hone : n < 0x80
  · rw [if_pos (by omega), if_pos hone] at hlead
    omega
  · rw [if_neg hone] at hlead ⊢
    by_cases htwo : n < 0x800
    · rw [if_pos htwo] at hlead ⊢
      rw [if_neg (by split at hlead <;> omega), if_pos (by omega)] at hlead ⊢
      exact lastDigit_cons_lt h (by omega) x y
    · rw [if_neg htwo] at hlead ⊢
      by_cases hthree : n < 0x10000
      · rw [if_pos hthree] at hlead ⊢
        have hm : 0x800 ≤ m := by
          split at hlead
          · omega
          · split at hlead <;> omega
        rw [if_neg (by omega), if_neg (by omega), if_pos (by omega)]
          at hlead ⊢
        refine digit_cons_lt (Nat.le_of_lt h) (by omega) fun hfirst => ?_
        exact lastDigit_cons_lt h hfirst x y
      · rw [if_neg hthree] at hlead ⊢
        have hm : 0x10000 ≤ m := by
          split at hlead
          · omega
          · split at hlead
            · omega
            · split at hlead <;> omega
        rw [if_neg (by omega), if_neg (by omega), if_neg (by omega)]
          at hlead ⊢
        refine digit_cons_lt (Nat.le_of_lt h) (by omega) fun hfirst => ?_
        refine digit_cons_lt (Nat.le_of_lt h) hfirst fun hsecond => ?_
        exact lastDigit_cons_lt h hsecond x y

/-- The bytes of a smaller character come first, whatever follows. -/
theorem encodeChar_append_lt {c d : Char} (h : c < d) (x y : List UInt8) :
    encodeChar c ++ x < encodeChar d ++ y := by
  have hlt : c.toNat < d.toNat := h
  have hd : d.toNat < 0x110000 := by
    have hvalid : d.toNat < 0xD800 ∨ 0xDFFF < d.toNat ∧ d.toNat < 0x110000 :=
      d.valid
    omega
  rw [encodeChar_eq_cons, encodeChar_eq_cons, List.cons_append,
    List.cons_append]
  rcases Nat.lt_or_eq_of_le (leadByte_le_leadByte (Nat.le_of_lt hlt)) with
    hlead | hlead
  · exact toUInt8_cons_lt (leadByte_lt hd) hlead _ _
  · rw [hlead, List.cons_lt_cons_iff]
    exact Or.inr ⟨rfl, tailBytes_append_lt hlt hlead x y⟩

theorem encode_cons (c : Char) (rest : List Char) :
    encode (c :: rest) = encodeChar c ++ encode rest :=
  List.flatMap_cons

/-- The bytes of texts are ordered like the texts. -/
theorem encode_lt_encode {a b : List Char} (h : a < b) :
    encode a < encode b := by
  induction a generalizing b with
  | nil =>
      cases b with
      | nil => exact absurd h (List.lt_irrefl [])
      | cons d more =>
          rw [encode_cons, encodeChar_eq_cons]
          exact List.nil_lt_cons _ _
  | cons c rest ih =>
      cases b with
      | nil => exact absurd h (List.not_lt_nil _)
      | cons d more =>
          rw [encode_cons, encode_cons]
          rcases List.cons_lt_cons_iff.mp h with hchar | ⟨rfl, hrest⟩
          · exact encodeChar_append_lt hchar _ _
          · exact List.append_left_lt (ih hrest)

end Utf8

end CityMarkup
