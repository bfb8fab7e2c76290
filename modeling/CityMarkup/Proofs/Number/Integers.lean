import CityMarkup.Proofs.Number.Forms

/-!
# Reading integers

An integer is written with its decimal digits, and with a minus sign in front
if it is negative.  No zero stands in front of other digits, and no sign in
front of zero.  Digits of this form are those of the number that they stand
for, so a text is read as an integer exactly if it is the text of this integer.
-/

namespace CityMarkup

/-! ## Numerals -/

/-- Whether some characters are the digits of a number, of which the first is
zero only if it is the only one. -/
def IsNumeral (cs : List Char) : Prop :=
  IsDigits cs ∧ (cs.head? = some '0' → cs = ['0'])

instance (cs : List Char) : Decidable (IsNumeral cs) :=
  inferInstanceAs (Decidable (_ ∧ _))

theorem isDigits_toDigits (n : Nat) : IsDigits (Nat.toDigits 10 n) :=
  ⟨Nat.toDigits_ne_nil, fun _ hc => Decimal.isDigit_of_mem_digits hc⟩

/-- The first digit of a number is zero for zero only. -/
theorem head?_toDigits {n : Nat} (h : n ≠ 0) :
    (Nat.toDigits 10 n).head? ≠ some '0' := by
  induction n using Nat.strong_induction_on with
  | _ n ih =>
      by_cases hsmall : n < 10
      · have key : ∀ d < 10, d ≠ 0 → Nat.digitChar d ≠ '0' := by decide
        rw [Nat.toDigits_of_lt_base hsmall, List.head?_cons, Ne,
          Option.some_inj]
        exact key n hsmall h
      · rw [Nat.toDigits_of_base_le (by decide) (Nat.le_of_not_lt hsmall),
          List.head?_append_of_ne_nil _ Nat.toDigits_ne_nil]
        exact ih (n / 10) (by omega) (by omega)

theorem isNumeral_toDigits (n : Nat) : IsNumeral (Nat.toDigits 10 n) := by
  refine ⟨isDigits_toDigits n, fun hhead => ?_⟩
  by_cases h : n = 0
  · rw [h, Nat.toDigits_zero]
  · exact absurd hhead (head?_toDigits h)

theorem exists_digitChar {c : Char} (h : c.isDigit = true) :
    ∃ d < 10, c = Nat.digitChar d := by
  obtain ⟨hlow, hhigh⟩ : 48 ≤ c.toNat ∧ c.toNat ≤ 57 := by
    simpa [Char.isDigit, UInt32.le_iff_toNat_le] using h
  refine ⟨c.toNat - 48, by omega, ?_⟩
  rw [← Char.toNat_inj, Nat.toNat_digitChar_of_lt_ten (by omega)]
  omega

/-- Digits behind those of a number that is not zero are read on. -/
theorem toDigits_append {cs : List Char} (h : ∀ c ∈ cs, c.isDigit = true)
    {n : Nat} (hn : 0 < n) :
    Nat.toDigits 10 n ++ cs =
      Nat.toDigits 10 (Nat.ofDigitChars 10 cs n) := by
  induction cs generalizing n with
  | nil => rw [List.append_nil, Nat.ofDigitChars_nil]
  | cons c rest ih =>
      obtain ⟨hfirst, hrest⟩ := List.forall_mem_cons.mp h
      obtain ⟨d, hd, rfl⟩ := exists_digitChar hfirst
      rw [Nat.ofDigitChars_cons_digitChar_of_lt_ten hd,
        ← ih hrest (by omega), ← Nat.toDigits_append_toDigits (by decide) hn hd,
        Nat.toDigits_of_lt_base hd, List.append_assoc, List.singleton_append]

/-- A numeral consists of the digits of the number that it stands for. -/
theorem IsNumeral.toDigits_eq {cs : List Char} (h : IsNumeral cs) :
    Nat.toDigits 10 (Nat.ofDigitChars 10 cs 0) = cs := by
  obtain ⟨⟨hne, hdigits⟩, hzero⟩ := h
  cases cs with
  | nil => exact absurd rfl hne
  | cons c rest =>
      obtain ⟨hfirst, hrest⟩ := List.forall_mem_cons.mp hdigits
      obtain ⟨d, hd, rfl⟩ := exists_digitChar hfirst
      by_cases hd0 : d = 0
      · subst hd0
        rw [hzero rfl]
        decide
      · rw [Nat.ofDigitChars_cons_digitChar_of_lt_ten hd, Nat.mul_zero,
          Nat.zero_add, ← toDigits_append hrest (Nat.pos_of_ne_zero hd0),
          Nat.toDigits_of_lt_base hd, List.singleton_append]

/-! ## Texts of integers -/

/-- The integer that a text stands for. -/
def integer? (text : String) : Option Int :=
  match text.toList with
  | '-' :: digits =>
    if IsNumeral digits ∧ digits ≠ ['0'] then
      some (-Nat.ofDigitChars 10 digits 0)
    else
      none
  | digits =>
    if IsNumeral digits then some (Nat.ofDigitChars 10 digits 0) else none

/-- The integer of 64 bits that a text stands for. -/
def int64? (text : String) : Option Int64 :=
  (integer? text).bind fun n =>
    if (Int64.ofInt n).toInt = n then some (Int64.ofInt n) else none

theorem toString_eq_if (n : Int) :
    toString n = if 0 ≤ n then n.toNat.repr else "-" ++ (-n).toNat.repr :=
  Int.repr_eq_if

theorem toList_toString_of_nonneg {n : Int} (h : 0 ≤ n) :
    (toString n).toList = Nat.toDigits 10 n.toNat := by
  rw [toString_eq_if, if_pos h, Nat.repr_eq_ofList_toDigits,
    String.toList_ofList]

theorem toList_toString_of_neg {n : Int} (h : n < 0) :
    (toString n).toList = '-' :: Nat.toDigits 10 (-n).toNat := by
  simp only [toString_eq_if, if_neg (Int.not_le.mpr h),
    Nat.repr_eq_ofList_toDigits, String.toList_append, String.toList_ofList]
  rfl

theorem integer?_of_numeral {text : String} (h : IsNumeral text.toList) :
    integer? text = some (Nat.ofDigitChars 10 text.toList 0 : Int) := by
  rw [integer?]
  split
  · rename_i digits hminus
    have hdigit := h.1.2 '-' (hminus ▸ List.mem_cons_self)
    exact absurd hdigit (by decide)
  · exact if_pos h

theorem integer?_of_minus {text : String} {digits : List Char}
    (htext : text.toList = '-' :: digits) (h : IsNumeral digits)
    (hzero : digits ≠ ['0']) :
    integer? text = some (-Nat.ofDigitChars 10 digits 0 : Int) := by
  rw [integer?, htext]
  exact if_pos ⟨h, hzero⟩

/-- Reading the text of an integer gives the integer. -/
theorem integer?_toString (n : Int) : integer? (toString n) = some n := by
  by_cases hn : 0 ≤ n
  · have htext := toList_toString_of_nonneg hn
    have hread := integer?_of_numeral
      (htext ▸ isNumeral_toDigits n.toNat : IsNumeral (toString n).toList)
    rw [hread, htext, Nat.ofDigitChars_ten_toDigits, Int.toNat_of_nonneg hn]
  · have hneg : n < 0 := Int.not_le.mp hn
    have hother : Nat.toDigits 10 (-n).toNat ≠ ['0'] := by
      intro hzero
      exact head?_toDigits (by omega) (congrArg List.head? hzero)
    rw [integer?_of_minus (toList_toString_of_neg hneg) (isNumeral_toDigits _)
      hother, Nat.ofDigitChars_ten_toDigits, Int.toNat_of_nonneg (by omega),
      Int.neg_neg]

/-- A text is read as an integer exactly if it is the text of this integer. -/
theorem integer?_eq_some_iff {text : String} {n : Int} :
    integer? text = some n ↔ text = toString n := by
  constructor
  · intro h
    rw [integer?] at h
    split at h
    · rename_i digits hminus
      split at h
      · rename_i hdigits
        obtain ⟨hnumeral, hother⟩ := hdigits
        cases h
        have hvalue := hnumeral.toDigits_eq
        have hne : Nat.ofDigitChars 10 digits 0 ≠ 0 := by
          intro hzero
          rw [hzero] at hvalue
          exact hother hvalue.symm
        rw [← String.toList_inj, hminus, toList_toString_of_neg (by omega),
          Int.neg_neg, Int.toNat_natCast, hvalue]
      · cases h
    · split at h
      · rename_i hnumeral
        cases h
        rw [← String.toList_inj, toList_toString_of_nonneg (by omega),
          Int.toNat_natCast, hnumeral.toDigits_eq]
      · cases h
  · rintro rfl
    exact integer?_toString n

theorem int64?_eq_some_iff {text : String} {n : Int64} :
    int64? text = some n ↔ text = toString n.toInt := by
  rw [int64?, Option.bind_eq_some_iff]
  constructor
  · rintro ⟨m, hm, hn⟩
    split at hn
    · rename_i hrange
      cases hn
      rw [hrange]
      exact integer?_eq_some_iff.mp hm
    · cases hn
  · rintro rfl
    refine ⟨n.toInt, integer?_toString n.toInt, ?_⟩
    rw [Int64.ofInt_toInt, if_pos rfl]

example : integer? "-120" = some (-120) ∧ integer? "-0" = none ∧
    integer? "007" = none := by decide

end CityMarkup
