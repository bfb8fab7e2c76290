import CityMarkup.Number.Binary
import Mathlib.Order.Monotone.Basic
import Mathlib.Tactic.Ring

/-!
# Decimals that read back

A decimal reads back as a magnitude if it lies between the two midpoints
around its number.  The numbers of neighbouring magnitudes are different, so
the stretches between midpoints only meet in a midpoint, which belongs to one
of them.  Hence no decimal reads back as two magnitudes.
-/

namespace CityMarkup

namespace BinaryFormat

variable (f : BinaryFormat)

/-! ## Neighbouring magnitudes -/

/-- The numbers of the magnitudes that share an exponent are evenly spaced. -/
theorem units_normal {q m : Nat} (h : m < Nat.pow 2 f.fractionBits) :
    f.units ((q + 1) * Nat.pow 2 f.fractionBits + m) =
      (Nat.pow 2 f.fractionBits + m) * Nat.pow 2 q := by
  have hpos : 0 < Nat.pow 2 f.fractionBits := Nat.two_pow_pos _
  rw [units]
  generalize Nat.pow 2 f.fractionBits = width at h hpos
  have hlarge : ¬(q + 1) * width + m < width := by
    rw [Nat.succ_mul]
    omega
  rw [if_neg hlarge, Nat.mul_add_mod_of_lt h, Nat.mul_comm (q + 1),
    Nat.mul_add_div hpos, Nat.div_eq_of_lt h, Nat.add_zero,
    Nat.add_sub_cancel]

theorem units_lt_units_succ (b : Nat) : f.units b < f.units (b + 1) := by
  have hpos : 0 < Nat.pow 2 f.fractionBits := Nat.two_pow_pos _
  by_cases hlow : b < Nat.pow 2 f.fractionBits
  · rw [units_of_lt hlow]
    by_cases hnext : b + 1 < Nat.pow 2 f.fractionBits
    · rw [units_of_lt hnext]
      exact Nat.lt_succ_self b
    · have hfirst : b + 1 = (0 + 1) * Nat.pow 2 f.fractionBits + 0 := by omega
      rw [hfirst, f.units_normal hpos]
      have hone : Nat.pow 2 0 = 1 := rfl
      rw [hone]
      omega
  · have hquotient : 0 < b / Nat.pow 2 f.fractionBits :=
      Nat.div_pos (by omega) hpos
    obtain ⟨q, hq⟩ := Nat.exists_eq_add_one.mpr hquotient
    have hrest := Nat.mod_lt b hpos
    have hparts := Nat.div_add_mod' b (Nat.pow 2 f.fractionBits)
    rw [hq] at hparts
    rw [← hparts]
    generalize b % Nat.pow 2 f.fractionBits = m at hrest
    have hpow : 0 < Nat.pow 2 q := Nat.two_pow_pos q
    by_cases hcarry : m + 1 < Nat.pow 2 f.fractionBits
    · rw [Nat.add_assoc, f.units_normal hrest, f.units_normal hcarry]
      exact Nat.mul_lt_mul_of_pos_right (Nat.lt_succ_self _) hpow
    · -- The last number of an exponent comes before twice the first one.
      have hfirst : (q + 1) * Nat.pow 2 f.fractionBits + m + 1 =
          (q + 1 + 1) * Nat.pow 2 f.fractionBits + 0 := by
        rw [Nat.succ_mul (q + 1)]
        omega
      have hdouble : Nat.pow 2 (q + 1) = 2 * Nat.pow 2 q := Nat.pow_succ'
      rw [hfirst, f.units_normal hrest, f.units_normal hpos, hdouble,
        ← Nat.mul_assoc]
      exact Nat.mul_lt_mul_of_pos_right (by omega) hpow

theorem units_strictMono : StrictMono f.units :=
  strictMono_nat_of_lt_succ f.units_lt_units_succ

theorem units_zero : f.units 0 = 0 :=
  units_of_lt (Nat.two_pow_pos _)

theorem lowerMidpoint_lt {b : Nat} (h : b ≠ 0) :
    f.lowerMidpoint b < 2 * f.units b := by
  have hlt : f.units (b - 1) < f.units b := f.units_strictMono (by omega)
  rw [lowerMidpoint]
  omega

theorem lt_upperMidpoint (b : Nat) : 2 * f.units b < f.upperMidpoint b := by
  have hlt := f.units_lt_units_succ b
  rw [upperMidpoint]
  omega

/-- Between two magnitudes that are not neighbours the midpoints differ. -/
theorem upperMidpoint_lt_lowerMidpoint {b c : Nat} (h : b + 1 < c) :
    f.upperMidpoint b < f.lowerMidpoint c := by
  have hfirst : f.units b < f.units (c - 1) := f.units_strictMono (by omega)
  have hsecond : f.units (b + 1) < f.units c := f.units_strictMono h
  rw [upperMidpoint, lowerMidpoint]
  omega

/-! ## Reading a decimal -/

/-- Whether a decimal lies between the midpoints around a magnitude, where a
midpoint itself belongs to the even magnitude. -/
def ReadsBack (b : Nat) (d : Decimal) : Prop :=
  between (b % 2 == 0)
    (f.lowerMidpoint b * Nat.pow 10 (-d.exponent).toNat)
    (f.upperMidpoint b * Nat.pow 10 (-d.exponent).toNat)
    (d.coefficient *
      (Nat.pow 10 d.exponent.toNat * Nat.pow 2 (f.scale + 1))) = true

variable {f}

theorem le_of_between {closed : Bool} {lower upper point : Nat}
    (h : between closed lower upper point = true) :
    lower ≤ point ∧ point ≤ upper := by
  rw [between] at h
  split at h
  · exact of_decide_eq_true h
  · have hstrict := of_decide_eq_true h
    exact ⟨hstrict.1.le, hstrict.2.le⟩

theorem lt_of_between_open {lower upper point : Nat}
    (h : between false lower upper point = true) :
    lower < point ∧ point < upper :=
  of_decide_eq_true h

theorem between_of_lt {lower upper point : Nat} (closed : Bool)
    (hlower : lower < point) (hupper : point < upper) :
    between closed lower upper point = true := by
  cases closed with
  | false => exact decide_eq_true ⟨hlower, hupper⟩
  | true => exact decide_eq_true ⟨hlower.le, hupper.le⟩

theorem not_readsBack_of_lt {b c : Nat} {d : Decimal} (h : b < c)
    (hb : f.ReadsBack b d) : ¬f.ReadsBack c d := by
  intro hc
  have hstretch : 0 < Nat.pow 10 (-d.exponent).toNat :=
    Nat.pow_pos (by decide)
  rw [ReadsBack] at hb hc
  have hbelow := (le_of_between hb).2
  have habove := (le_of_between hc).1
  by_cases hnext : b + 1 < c
  · have hmid := Nat.mul_lt_mul_of_pos_right
      (f.upperMidpoint_lt_lowerMidpoint hnext) hstretch
    omega
  · obtain rfl : c = b + 1 := by omega
    rw [← upperMidpoint_eq_lowerMidpoint] at habove hc
    -- One of two neighbours is odd and does not own the midpoint.
    by_cases hodd : b % 2 = 0
    · have hopen : ((b + 1) % 2 == 0) = false := by
        rw [beq_eq_false_iff_ne]
        omega
      rw [hopen] at hc
      have hstrict := (lt_of_between_open hc).1
      omega
    · have hopen : (b % 2 == 0) = false := by
        rw [beq_eq_false_iff_ne]
        exact hodd
      rw [hopen] at hb
      have hstrict := (lt_of_between_open hb).2
      omega

/-- A decimal reads back as one magnitude only. -/
theorem eq_of_readsBack {b c : Nat} {d : Decimal} (hb : f.ReadsBack b d)
    (hc : f.ReadsBack c d) : b = c := by
  rcases Nat.lt_trichotomy b c with h | h | h
  · exact absurd hc (not_readsBack_of_lt h hb)
  · exact h
  · exact absurd hb (not_readsBack_of_lt h hc)

/-! ## The shortest decimal -/

theorem readsBack_of_gridPoint? {b point : Nat} {exponent : Int}
    (h : f.gridPoint? b exponent = some point) :
    f.ReadsBack b ⟨point, exponent⟩ := by
  rw [gridPoint?] at h
  simp only at h
  split at h
  · rename_i hbelow
    rw [Bool.and_eq_true] at hbelow
    cases h
    exact hbelow.1
  · split at h
    · rename_i habove
      cases h
      exact habove
    · cases h

theorem readsBack_exactDecimal {b : Nat} (h : b ≠ 0) :
    f.ReadsBack b (f.exactDecimal b) := by
  have hstretch : 0 < 10 ^ f.scale := Nat.pow_pos (by decide)
  have hpoint : f.units b * Nat.pow 5 f.scale *
      (Nat.pow 10 (-(f.scale : Int)).toNat * Nat.pow 2 (f.scale + 1)) =
      2 * f.units b * 10 ^ f.scale := by
    have hzero : (-(f.scale : Int)).toNat = 0 := by omega
    rw [hzero]
    have hten : 10 ^ f.scale = 5 ^ f.scale * 2 ^ f.scale := by
      rw [← Nat.mul_pow]
    change f.units b * 5 ^ f.scale * (10 ^ 0 * 2 ^ (f.scale + 1)) = _
    rw [hten]
    ring
  have hexponent : (-(-(f.scale : Int))).toNat = f.scale := by omega
  rw [ReadsBack, exactDecimal]
  simp only [hpoint, hexponent]
  exact between_of_lt _
    (Nat.mul_lt_mul_of_pos_right (f.lowerMidpoint_lt h) hstretch)
    (Nat.mul_lt_mul_of_pos_right (f.lt_upperMidpoint b) hstretch)

/-- The shortest decimal of a magnitude reads back as that magnitude. -/
theorem readsBack_shortestDecimal {b : Nat} (h : b ≠ 0) :
    f.ReadsBack b (f.shortestDecimal b) := by
  rw [shortestDecimal]
  cases hfound : (List.range (f.decimalDigits + 1)).findSome? fun i : Nat =>
      (f.gridPoint? b (f.decimalExponent b - i)).map fun point =>
        (⟨point, f.decimalExponent b - i⟩ : Decimal) with
  | none => exact readsBack_exactDecimal h
  | some d =>
      obtain ⟨i, -, hi⟩ := List.exists_of_findSome?_eq_some hfound
      obtain ⟨point, hpoint, rfl⟩ := Option.map_eq_some_iff.mp hi
      exact readsBack_of_gridPoint? hpoint

theorem readsBack_zero : f.ReadsBack 0 ⟨0, 0⟩ := by
  have hlower : f.lowerMidpoint 0 = 0 := by
    rw [lowerMidpoint, units_zero]
  rw [ReadsBack, hlower]
  simp [between]

end BinaryFormat

end CityMarkup
