import CityMarkup.Proofs.Number.Forms

/-!
# Reading numbers

A decimal in positional notation is read digit by digit, and stands for the
magnitude between whose midpoints it lies.  Since the midpoints are ordered like
the magnitudes, this is the last magnitude whose lower midpoint the decimal
reaches, and its bits are found from the highest to the lowest.  Reading the
text of a number gives the number back, and one value for all that are none.
-/

namespace CityMarkup

/-! ## Decimals -/

namespace Decimal

/-- The decimal that is written in positional notation. -/
def ofChars? (cs : List Char) : Option Decimal :=
  match cs.splitOn '.' with
  | [whole] =>
    if IsDigits whole then some ⟨Nat.ofDigitChars 10 whole 0, 0⟩ else none
  | [whole, fraction] =>
    if IsDigits whole ∧ IsDigits fraction then
      some ⟨Nat.ofDigitChars 10 (whole ++ fraction) 0, -fraction.length⟩
    else
      none
  | _ => none

theorem splitOn_of_isDigits {cs : List Char} (h : IsDigits cs) :
    cs.splitOn '.' = [cs] := by
  have hpoint : ∀ l ∈ [cs], '.' ∉ l :=
    List.forall_mem_singleton.mpr (point_notMem h.2)
  have hsplit := List.splitOn_intercalate '.' hpoint (List.cons_ne_nil cs [])
  rwa [List.intercalate_singleton] at hsplit

theorem splitOn_of_point {before after : List Char}
    (hbefore : IsDigits before) (hafter : IsDigits after) :
    (before ++ '.' :: after).splitOn '.' = [before, after] := by
  have hpoint : ∀ l ∈ [before, after], '.' ∉ l := by
    intro l hl
    rcases List.mem_pair.mp hl with rfl | rfl
    · exact point_notMem hbefore.2
    · exact point_notMem hafter.2
  have hsplit := List.splitOn_intercalate '.' hpoint
    (List.cons_ne_nil before [after])
  simpa [List.intercalate] using hsplit

/-- Reading a decimal in positional notation gives a decimal of the same
value. -/
theorem ofChars?_positional (d : Decimal) :
    ∃ read, ofChars? d.positional = some read ∧ d.SameValue read := by
  obtain ⟨hdigits, hwhole⟩ | ⟨before, after, hparts, hbefore, hafter, hd⟩ :=
    d.positional_cases
  · refine ⟨⟨Nat.ofDigitChars 10 d.positional 0, 0⟩, ?_, ?_⟩
    · rw [ofChars?, splitOn_of_isDigits hdigits]
      exact if_pos hdigits
    · refine Or.inl ⟨hwhole, le_rfl, ?_⟩
      rw [ofDigitChars_whole hwhole]
      exact (Nat.mul_one _).symm
  · refine ⟨d, ?_, Or.inr rfl⟩
    rw [ofChars?, hparts, splitOn_of_point hbefore hafter]
    exact (if_pos ⟨hbefore, hafter⟩).trans (congrArg some hd.symm)

end Decimal

/-! ## Magnitudes -/

/-- The last number at which a test succeeds, if it succeeds up to some number
and never again; its bits are found from the highest to the lowest. -/
def lastPassing (test : Nat → Bool) : Nat → Nat → Nat
  | 0, found => found
  | bits + 1, found =>
    lastPassing test bits
      (if test (found + 2 ^ bits) then found + 2 ^ bits else found)

theorem lastPassing_eq {test : Nat → Bool} {last : Nat}
    (h : ∀ n, test n = true ↔ n ≤ last) {bits found : Nat}
    (hfound : found ≤ last) (hlast : last < found + 2 ^ bits) :
    lastPassing test bits found = last := by
  induction bits generalizing found with
  | zero =>
      rw [lastPassing]
      omega
  | succ bits ih =>
      rw [lastPassing]
      rw [pow_succ] at hlast
      by_cases hnext : found + 2 ^ bits ≤ last
      · rw [if_pos ((h _).mpr hnext)]
        exact ih hnext (by omega)
      · rw [if_neg (mt (h _).mp hnext)]
        exact ih hfound (by omega)

namespace BinaryFormat

variable {f : BinaryFormat}

/-- Whether a point lies above a midpoint, or on it if that is included. -/
def above (closed : Bool) (lower point : Nat) : Bool :=
  if closed then decide (lower ≤ point) else decide (lower < point)

/-- Whether a decimal lies above the midpoint below a magnitude, where the
midpoint itself belongs to the even magnitude. -/
def reaches (f : BinaryFormat) (d : Decimal) (b : Nat) : Bool :=
  above (b % 2 == 0) (f.lowerMidpoint b * Nat.pow 10 (-d.exponent).toNat)
    (d.coefficient *
      (Nat.pow 10 d.exponent.toNat * Nat.pow 2 (f.scale + 1)))

/-- The magnitude nearest to a decimal, which is infinity if the decimal is too
large. -/
def nearest (f : BinaryFormat) (d : Decimal) : Nat :=
  min (lastPassing (f.reaches d) f.magnitudeBits 0) f.infinity

theorem above_of_lt {lower point : Nat} (closed : Bool) (h : lower < point) :
    above closed lower point = true := by
  rw [above]
  split
  · exact decide_eq_true h.le
  · exact decide_eq_true h

theorem le_of_above {closed : Bool} {lower point : Nat}
    (h : above closed lower point = true) : lower ≤ point := by
  rw [above] at h
  split at h
  · exact of_decide_eq_true h
  · exact (of_decide_eq_true h).le

/-- A point between two midpoints is above the lower one and not above the upper
one. -/
theorem above_of_between {closed : Bool} {lower upper point : Nat}
    (h : between closed lower upper point = true) :
    above closed lower point = true ∧ ¬above (!closed) upper point = true := by
  cases closed with
  | true =>
      have hboth := le_of_between h
      refine ⟨decide_eq_true hboth.1, fun habove => ?_⟩
      have hlt : upper < point := of_decide_eq_true habove
      omega
  | false =>
      have hboth := lt_of_between_open h
      refine ⟨decide_eq_true hboth.1, fun habove => ?_⟩
      have hle := le_of_above habove
      omega

theorem lowerMidpoint_lt_lowerMidpoint {b c : Nat} (h : b < c) :
    f.lowerMidpoint b < f.lowerMidpoint c := by
  have hbefore : f.units (b - 1) ≤ f.units (c - 1) :=
    f.units_strictMono.monotone (by omega)
  have hself : f.units b < f.units c := f.units_strictMono h
  rw [lowerMidpoint, lowerMidpoint]
  omega

/-- A decimal reaches the magnitude as which it reads back, those before it, and
no others. -/
theorem reaches_iff {b c : Nat} {d : Decimal} (h : f.ReadsBack b d) :
    f.reaches d c = true ↔ c ≤ b := by
  have hstretch : 0 < Nat.pow 10 (-d.exponent).toNat :=
    Nat.pow_pos (by decide)
  have hlt : ∀ {m n : Nat}, m < n →
      f.lowerMidpoint m * Nat.pow 10 (-d.exponent).toNat <
        f.lowerMidpoint n * Nat.pow 10 (-d.exponent).toNat := fun hmn =>
    Nat.mul_lt_mul_of_pos_right (lowerMidpoint_lt_lowerMidpoint hmn) hstretch
  rw [ReadsBack, upperMidpoint_eq_lowerMidpoint] at h
  obtain ⟨hlower, hupper⟩ := le_of_between h
  obtain ⟨hself, hnext⟩ := above_of_between h
  rw [reaches]
  rcases Nat.lt_trichotomy c b with hcb | rfl | hbc
  · exact iff_of_true (above_of_lt _ ((hlt hcb).trans_le hlower)) hcb.le
  · exact iff_of_true hself le_rfl
  · refine iff_of_false (fun habove => ?_) (by omega)
    by_cases hc : c = b + 1
    · -- The midpoint between two neighbours belongs to one of them only.
      have hflip : (c % 2 == 0) = !(b % 2 == 0) := by
        rw [Bool.eq_iff_iff, Bool.not_eq_true', beq_iff_eq, beq_eq_false_iff_ne]
        omega
      rw [hflip, hc] at habove
      exact hnext habove
    · have hfar := hlt (show b + 1 < c by omega)
      have hle := le_of_above habove
      omega

theorem nearest_eq {b : Nat} {d : Decimal} (h : f.ReadsBack b d)
    (hb : b ≤ f.infinity) (hbits : b < 2 ^ f.magnitudeBits) :
    f.nearest d = b := by
  rw [nearest, lastPassing_eq (fun c => reaches_iff h) (Nat.zero_le b)
    (by rwa [Nat.zero_add]), min_eq_left hb]

end BinaryFormat

/-! ## Numbers -/

namespace BinaryNumber

variable {f : BinaryFormat} {word : String}

/-- The magnitude that a text without a sign stands for, given the word for
infinity. -/
def magnitude? (f : BinaryFormat) (word : String) (cs : List Char) :
    Option Nat :=
  if cs = word.toList then some f.infinity
  else (Decimal.ofChars? cs).map f.nearest

/-- The number of a sign and a magnitude, if the magnitude is not too large. -/
def ofMagnitude? (negative : Bool) (magnitude : Nat) :
    Option (BinaryNumber f) :=
  if h : magnitude < Nat.pow 2 f.magnitudeBits then
    some ⟨negative, magnitude, h⟩
  else
    none

/-- The number that a text stands for, given the word for infinity. -/
def ofText? (word : String) (text : String) : Option (BinaryNumber f) :=
  if text = "NaN" then
    some nan
  else
    match text.toList with
    | '-' :: body => (magnitude? f word body).bind (ofMagnitude? true)
    | body => (magnitude? f word body).bind (ofMagnitude? false)

/-- The number itself, and one value for all that are no number. -/
def canonical (x : BinaryNumber f) : BinaryNumber f :=
  if x.isNaN then nan else x

theorem ofMagnitude?_magnitude (x : BinaryNumber f) :
    ofMagnitude? x.negative x.magnitude = some x :=
  dif_pos x.magnitude_lt

theorem magnitude?_body (hword : IsInfinityWord word) {x : BinaryNumber f}
    (h : x.isNaN = false) : magnitude? f word (x.body word) =
      some x.magnitude := by
  have hle : x.magnitude ≤ f.infinity :=
    Nat.le_of_not_lt (of_decide_eq_false h)
  cases hinfinite : x.isInfinite with
  | true => rw [magnitude?, body, if_pos hinfinite, if_pos rfl,
      ← eq_of_beq hinfinite]
  | false =>
      have hbody : x.body word = (decimal f x.magnitude).positional := by
        rw [body, hinfinite, ← finiteText_eq]
        rfl
      -- The word for infinity has letters, and a finite number has none.
      have hother : x.body word ≠ word.toList := by
        intro heq
        obtain ⟨c, rest, hcons⟩ := List.exists_cons_of_ne_nil hword.nonempty
        have hc : c ∈ word.toList := by
          rw [hcons]
          exact List.mem_cons_self
        have halpha := List.all_eq_true.mp hword.letters c hc
        rw [← heq, hbody, ← finiteText_eq] at hc
        rw [(isAlpha_eq_false_of_mem_finiteText hc).1] at halpha
        cases halpha
      obtain ⟨read, hread, hvalue⟩ :=
        Decimal.ofChars?_positional (decimal f x.magnitude)
      have hback := (readsBack_decimal f x.magnitude).congr hvalue
      rw [magnitude?, if_neg hother, hbody, hread, Option.map_some,
        BinaryFormat.nearest_eq hback hle x.magnitude_lt]

/-- Reading the text of a number gives the number. -/
theorem ofText?_textWith (hword : IsInfinityWord word) (x : BinaryNumber f) :
    ofText? word (x.textWith word) = some x.canonical := by
  cases hx : x.isNaN with
  | true => rw [canonical, if_pos hx, textWith, if_pos hx, ofText?, if_pos rfl]
  | false =>
      have hmagnitude := magnitude?_body hword hx
      rw [canonical, hx, ofText?, if_neg (textWith_ne_nan hword hx),
        textWith_eq hx]
      cases hsign : x.negative with
      | true =>
          have hself := x.ofMagnitude?_magnitude
          rw [hsign] at hself
          simp only [if_true, hmagnitude, Option.bind_some, hself]
          rfl
      | false =>
          have hself := x.ofMagnitude?_magnitude
          rw [hsign] at hself
          have hminus := (minus_notMem_body hword x).1
          simp only [Bool.false_eq_true, if_false]
          split
          · rename_i body hbody
            rw [hbody] at hminus
            exact absurd List.mem_cons_self hminus
          · rw [hmagnitude, Option.bind_some, hself]

example : ofText? "inf" "0.1" =
    some (ofBits .binary32 0x3dcccccd) := by decide +kernel

end BinaryNumber

end CityMarkup
