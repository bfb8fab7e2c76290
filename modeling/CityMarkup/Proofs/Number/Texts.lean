import CityMarkup.Proofs.Number.ReadBack
import Mathlib.Data.List.Basic
import Mathlib.Tactic.ByContra

/-!
# Texts of numbers

The text of a finite number consists of digits with at most one point, and
from it the value of its decimal can be read.  A number is therefore known
from its text, as long as it is one: the values that are no number are all
written alike, and unlike any number.
-/

namespace CityMarkup

namespace Decimal

theorem isDigit_of_mem_digits {n : Nat} {c : Char} (h : c ∈ digits n) :
    c.isDigit = true :=
  Nat.isDigit_of_mem_toDigits (by decide) (by decide) h

/-- The digits before and after the point. -/
theorem pointed_eq (places n : Nat) :
    ∃ before after : List Char,
      pointed places (digits n) = before ++ '.' :: after ∧
      after.length = places ∧
      Nat.ofDigitChars 10 (before ++ after) 0 = n ∧
      before ≠ [] ∧ ∀ c ∈ before ++ after, c.isDigit = true := by
  let padded := List.replicate (places + 1 - (digits n).length) '0' ++ digits n
  have hlength : places + 1 ≤ padded.length := by
    rw [List.length_append, List.length_replicate]
    omega
  refine ⟨padded.take (padded.length - places),
    padded.drop (padded.length - places), rfl, ?_, ?_, ?_, ?_⟩
  · rw [List.length_drop]
    omega
  · rw [List.take_append_drop, Nat.ofDigitChars_append,
      Nat.ofDigitChars_replicate_zero, Nat.mul_zero]
    exact Nat.ofDigitChars_ten_toDigits
  · intro hnil
    have hzero := congrArg List.length hnil
    rw [List.length_take, List.length_nil] at hzero
    omega
  · rw [List.take_append_drop]
    intro c hc
    rcases List.mem_append.mp hc with h | h
    · rw [List.eq_of_mem_replicate h]
      rfl
    · exact isDigit_of_mem_digits h

theorem whole_eq {d : Decimal} (h : 0 ≤ d.exponent) :
    d.positional =
      digits d.coefficient ++ List.replicate d.exponent.toNat '0' :=
  if_pos h

theorem isDigit_of_mem_whole {d : Decimal} (h : 0 ≤ d.exponent) {c : Char}
    (hc : c ∈ d.positional) : c.isDigit = true := by
  rw [whole_eq h] at hc
  rcases List.mem_append.mp hc with hc | hc
  · exact isDigit_of_mem_digits hc
  · rw [List.eq_of_mem_replicate hc]
    rfl

theorem ofDigitChars_whole {d : Decimal} (h : 0 ≤ d.exponent) :
    Nat.ofDigitChars 10 d.positional 0 =
      d.coefficient * Nat.pow 10 d.exponent.toNat := by
  rw [whole_eq h, Nat.ofDigitChars_append, Nat.ofDigitChars_replicate_zero,
    Nat.mul_comm]
  exact congrArg (· * _) Nat.ofDigitChars_ten_toDigits

theorem parts_eq {d : Decimal} (h : ¬0 ≤ d.exponent) :
    ∃ before after : List Char,
      d.positional = before ++ '.' :: after ∧
      after.length = (-d.exponent).toNat ∧
      Nat.ofDigitChars 10 (before ++ after) 0 = d.coefficient ∧
      before ≠ [] ∧ ∀ c ∈ before ++ after, c.isDigit = true := by
  have hparts := pointed_eq (-d.exponent).toNat d.coefficient
  rw [positional, if_neg h]
  exact hparts

/-- Two decimals of the same value, written on the same grid where they are
not whole. -/
def SameValue (d e : Decimal) : Prop :=
  (0 ≤ d.exponent ∧ 0 ≤ e.exponent ∧
      d.coefficient * Nat.pow 10 d.exponent.toNat =
        e.coefficient * Nat.pow 10 e.exponent.toNat) ∨
    d = e

theorem point_notMem {l : List Char} (h : ∀ c ∈ l, c.isDigit = true) :
    '.' ∉ l := by
  intro hmem
  have hdigit := h '.' hmem
  revert hdigit
  decide

/-- A whole number is not written like one with a point. -/
theorem positional_ne_of_whole {d e : Decimal} (hd : 0 ≤ d.exponent)
    (he : ¬0 ≤ e.exponent) : d.positional ≠ e.positional := by
  intro h
  obtain ⟨before, after, hparts, -⟩ := parts_eq he
  have hmem : '.' ∈ d.positional := by
    rw [h, hparts]
    exact List.mem_append_right _ List.mem_cons_self
  exact point_notMem (fun c hc => isDigit_of_mem_whole hd hc) hmem

/-- Numbers with a point are told apart by their digits and by the place of
the point. -/
theorem eq_of_positional_eq {d e : Decimal} (hd : ¬0 ≤ d.exponent)
    (he : ¬0 ≤ e.exponent) (h : d.positional = e.positional) : d = e := by
  obtain ⟨before, after, hparts, hlength, hvalue, -, hdigits⟩ := parts_eq hd
  obtain ⟨before', after', hparts', hlength', hvalue', -, -⟩ := parts_eq he
  have hbefore : '.' ∉ before := point_notMem fun c hc =>
    hdigits c (List.mem_append_left _ hc)
  have hafter : '.' ∉ after := point_notMem fun c hc =>
    hdigits c (List.mem_append_right _ hc)
  rw [hparts, hparts', List.append_cons_inj_of_notMem hbefore hafter] at h
  obtain ⟨rfl, -, rfl⟩ := h
  have hcoefficient : d.coefficient = e.coefficient :=
    hvalue.symm.trans hvalue'
  have hexponent : d.exponent = e.exponent := by omega
  cases d
  cases e
  cases hcoefficient
  cases hexponent
  rfl

theorem sameValue_of_positional_eq {d e : Decimal}
    (h : d.positional = e.positional) : d.SameValue e := by
  by_cases hd : 0 ≤ d.exponent
  · by_cases he : 0 ≤ e.exponent
    · left
      refine ⟨hd, he, ?_⟩
      rw [← ofDigitChars_whole hd, ← ofDigitChars_whole he, h]
    · exact absurd h (positional_ne_of_whole hd he)
  · by_cases he : 0 ≤ e.exponent
    · exact absurd h.symm (positional_ne_of_whole he hd)
    · exact Or.inr (eq_of_positional_eq hd he h)

theorem positional_ne_nil (d : Decimal) : d.positional ≠ [] := by
  by_cases h : 0 ≤ d.exponent
  · rw [whole_eq h]
    exact List.append_ne_nil_of_left_ne_nil Nat.toDigits_ne_nil _
  · obtain ⟨before, after, hparts, -⟩ := parts_eq h
    rw [hparts]
    simp

theorem isDigit_or_point_of_mem_positional {d : Decimal} {c : Char}
    (hc : c ∈ d.positional) : c.isDigit = true ∨ c = '.' := by
  by_cases h : 0 ≤ d.exponent
  · exact Or.inl (isDigit_of_mem_whole h hc)
  · obtain ⟨before, after, hparts, -, -, -, hdigits⟩ := parts_eq h
    rw [hparts] at hc
    rcases List.mem_append.mp hc with hc | hc
    · exact Or.inl (hdigits c (List.mem_append_left _ hc))
    · rcases List.mem_cons.mp hc with rfl | hc
      · exact Or.inr rfl
      · exact Or.inl (hdigits c (List.mem_append_right _ hc))

end Decimal

/-- What a decimal reads back as depends on its value. -/
theorem BinaryFormat.ReadsBack.congr {f : BinaryFormat} {b : Nat}
    {d e : Decimal} (h : f.ReadsBack b d) (hvalue : d.SameValue e) :
    f.ReadsBack b e := by
  obtain ⟨hd, he, hsame⟩ | rfl := hvalue
  · have hdstretch : (-d.exponent).toNat = 0 := by omega
    have hestretch : (-e.exponent).toNat = 0 := by omega
    rw [ReadsBack, hdstretch, ← Nat.mul_assoc, hsame, Nat.mul_assoc] at h
    rw [ReadsBack, hestretch]
    exact h
  · exact h

namespace BinaryNumber

/-! ## Finite numbers -/

/-- The decimal by which a finite magnitude is written. -/
def decimal (f : BinaryFormat) (b : Nat) : Decimal :=
  if b = 0 then ⟨0, 0⟩ else f.shortestDecimal b

theorem finiteText_eq (f : BinaryFormat) (b : Nat) :
    finiteText f b = (decimal f b).positional := by
  rw [finiteText, decimal]
  by_cases h : b = 0
  · rw [if_pos h, if_pos h]
    decide
  · rw [if_neg h, if_neg h]

theorem readsBack_decimal (f : BinaryFormat) (b : Nat) :
    f.ReadsBack b (decimal f b) := by
  rw [decimal]
  by_cases h : b = 0
  · rw [if_pos h, h]
    exact BinaryFormat.readsBack_zero
  · rw [if_neg h]
    exact BinaryFormat.readsBack_shortestDecimal h

/-- Different magnitudes are written differently. -/
theorem finiteText_injective (f : BinaryFormat) :
    Function.Injective (finiteText f) := by
  intro b c h
  rw [finiteText_eq, finiteText_eq] at h
  have hvalue := Decimal.sameValue_of_positional_eq h
  exact BinaryFormat.eq_of_readsBack
    ((readsBack_decimal f b).congr hvalue) (readsBack_decimal f c)

/-- No digit is a letter. -/
theorem isAlpha_eq_false_of_isDigit {c : Char} (h : c.isDigit = true) :
    c.isAlpha = false := by
  have hdigit : c.isDigit = (decide (48 ≤ c.val) && decide (c.val ≤ 57)) :=
    rfl
  have halpha : c.isAlpha =
      (decide (65 ≤ c.val ∧ c.val ≤ 90) ||
        decide (97 ≤ c.val) && decide (c.val ≤ 122)) := rfl
  rw [hdigit] at h
  rw [halpha]
  grind

theorem isAlpha_eq_false_of_mem_finiteText {f : BinaryFormat} {b : Nat}
    {c : Char} (h : c ∈ finiteText f b) :
    c.isAlpha = false ∧ c ≠ '-' ∧ c ≠ ' ' := by
  rw [finiteText_eq] at h
  rcases Decimal.isDigit_or_point_of_mem_positional h with hdigit | rfl
  · refine ⟨?_, ?_, ?_⟩
    · exact isAlpha_eq_false_of_isDigit hdigit
    · rintro rfl
      revert hdigit
      decide
    · rintro rfl
      revert hdigit
      decide
  · decide

/-! ## All numbers -/

/-- A word that may stand for infinity: it has letters only, and is not the
word for values that are no number. -/
structure IsInfinityWord (word : String) : Prop where
  letters : word.toList.all Char.isAlpha = true
  nonempty : word.toList ≠ []
  ne : word ≠ "NaN"

variable {f : BinaryFormat} {word : String}

/-- The text of a number without its sign. -/
def body (word : String) (x : BinaryNumber f) : List Char :=
  if x.isInfinite then word.toList else finiteText f x.magnitude

theorem textWith_eq {x : BinaryNumber f} (h : x.isNaN = false) :
    (x.textWith word).toList =
      if x.negative then '-' :: x.body word else x.body word := by
  rw [textWith, h]
  exact String.toList_ofList

theorem body_ne_nil (hword : IsInfinityWord word) (x : BinaryNumber f) :
    x.body word ≠ [] := by
  rw [body]
  by_cases h : x.isInfinite = true
  · rw [if_pos h]
    exact hword.nonempty
  · rw [if_neg h, finiteText_eq]
    exact Decimal.positional_ne_nil _

theorem minus_notMem_body (hword : IsInfinityWord word)
    (x : BinaryNumber f) : '-' ∉ x.body word ∧ ' ' ∉ x.body word := by
  have hletters := List.all_eq_true.mp hword.letters
  rw [body]
  by_cases h : x.isInfinite = true
  · rw [if_pos h]
    constructor
    · intro hmem
      have halpha := hletters _ hmem
      revert halpha
      decide
    · intro hmem
      have halpha := hletters _ hmem
      revert halpha
      decide
  · rw [if_neg h]
    constructor
    · intro hmem
      exact (isAlpha_eq_false_of_mem_finiteText hmem).2.1 rfl
    · intro hmem
      exact (isAlpha_eq_false_of_mem_finiteText hmem).2.2 rfl

theorem magnitude_eq_of_body_eq (hword : IsInfinityWord word)
    {x y : BinaryNumber f} (h : x.body word = y.body word) :
    x.magnitude = y.magnitude := by
  have hdiffer : ∀ {x y : BinaryNumber f}, x.isInfinite = true →
      y.isInfinite = false → x.body word ≠ y.body word := by
    intro x y hx hy heq
    rw [body, body, hx, hy] at heq
    obtain ⟨c, rest, hcons⟩ := List.exists_cons_of_ne_nil hword.nonempty
    have hmem : c ∈ word.toList := by
      rw [hcons]
      exact List.mem_cons_self
    have halpha := List.all_eq_true.mp hword.letters c hmem
    have hfinite : c ∈ finiteText f y.magnitude := by
      rw [← show word.toList = finiteText f y.magnitude from heq]
      exact hmem
    rw [(isAlpha_eq_false_of_mem_finiteText hfinite).1] at halpha
    cases halpha
  cases hx : x.isInfinite with
  | true =>
      cases hy : y.isInfinite with
      | true => rw [eq_of_beq hx, eq_of_beq hy]
      | false => exact absurd h (hdiffer hx hy)
  | false =>
      cases hy : y.isInfinite with
      | true => exact absurd h.symm (hdiffer hy hx)
      | false =>
          rw [body, body, hx, hy] at h
          exact finiteText_injective f h

theorem textWith_ne_nan (hword : IsInfinityWord word) {x : BinaryNumber f}
    (h : x.isNaN = false) : x.textWith word ≠ "NaN" := by
  intro heq
  have hlist := congrArg String.toList heq
  rw [textWith_eq h] at hlist
  have hbody : x.body word = ['N', 'a', 'N'] := by
    cases hsign : x.negative with
    | true =>
        rw [hsign] at hlist
        cases hlist
    | false =>
        rw [hsign] at hlist
        exact hlist
  rw [body] at hbody
  by_cases hinfinite : x.isInfinite = true
  · rw [if_pos hinfinite] at hbody
    apply hword.ne
    rw [← String.ofList_toList (s := word), hbody]
  · rw [if_neg hinfinite] at hbody
    have hmem : 'N' ∈ finiteText f x.magnitude := by
      rw [hbody]
      decide
    have halpha := (isAlpha_eq_false_of_mem_finiteText hmem).1
    revert halpha
    decide

/-- The sign can be told from the text. -/
theorem negative_eq_of_textWith_eq (hword : IsInfinityWord word)
    {x y : BinaryNumber f} (hx : x.isNaN = false) (hy : y.isNaN = false)
    (h : x.textWith word = y.textWith word) : x.negative = y.negative := by
  have hminus : ∀ {x : BinaryNumber f}, x.isNaN = false →
      ('-' ∈ (x.textWith word).toList ↔ x.negative = true) := by
    intro x hx
    have hbody := (minus_notMem_body hword x).1
    rw [textWith_eq hx]
    cases x.negative with
    | true => simp
    | false => simpa using hbody
  rw [Bool.eq_iff_iff, ← hminus hx, ← hminus hy, h]

theorem eq_of_textWith_eq (hword : IsInfinityWord word)
    {x y : BinaryNumber f} (hx : x.isNaN = false) (hy : y.isNaN = false)
    (h : x.textWith word = y.textWith word) : x = y := by
  have hsign := negative_eq_of_textWith_eq hword hx hy h
  have hlist := congrArg String.toList h
  rw [textWith_eq hx, textWith_eq hy, hsign] at hlist
  have hbody : x.body word = y.body word := by
    cases hnegative : y.negative with
    | true =>
        rw [hnegative] at hlist
        exact List.tail_eq_of_cons_eq hlist
    | false =>
        rw [hnegative] at hlist
        exact hlist
  have hmagnitude := magnitude_eq_of_body_eq hword hbody
  cases x
  cases y
  cases hsign
  cases hmagnitude
  rfl

/-- Equal texts stand for the same number, or for no number at all. -/
theorem textWith_eq_iff (hword : IsInfinityWord word)
    (x y : BinaryNumber f) :
    x.textWith word = y.textWith word ↔
      x = y ∨ (x.isNaN = true ∧ y.isNaN = true) := by
  constructor
  · intro h
    cases hx : x.isNaN with
    | true =>
        right
        refine ⟨rfl, ?_⟩
        by_contra hy
        rw [Bool.not_eq_true] at hy
        apply textWith_ne_nan hword hy
        rw [← h, textWith, if_pos hx]
    | false =>
        left
        apply eq_of_textWith_eq hword hx _ h
        by_contra hy
        rw [Bool.not_eq_false] at hy
        apply textWith_ne_nan hword hx
        rw [h, textWith, if_pos hy]
  · rintro (rfl | ⟨hx, hy⟩)
    · rfl
    · rw [textWith, textWith, if_pos hx, if_pos hy]

/-- The text of a number is one token. -/
theorem space_notMem_textWith (hword : IsInfinityWord word)
    (x : BinaryNumber f) :
    ' ' ∉ (x.textWith word).toList ∧ (x.textWith word).toList ≠ [] := by
  cases hx : x.isNaN with
  | true =>
      rw [textWith, if_pos hx]
      decide
  | false =>
      have hspace := (minus_notMem_body hword x).2
      rw [textWith_eq hx]
      cases x.negative with
      | true => simp [hspace]
      | false => exact ⟨hspace, body_ne_nil hword x⟩

theorem isInfinityWord_coordinate : IsInfinityWord "INF" :=
  ⟨by decide, by decide, by decide⟩

theorem isInfinityWord_text : IsInfinityWord "inf" :=
  ⟨by decide, by decide, by decide⟩

end BinaryNumber

end CityMarkup
