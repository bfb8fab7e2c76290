import CityMarkup.Proofs.Number.Texts

/-!
# Forms of numbers

Schemas write a number as decimal digits, with a fraction behind a point if
there is one and with a minus sign in front if it is negative, and know one word
for infinity and one for what is no number.  Every coordinate has such a form.
Elsewhere a number has one unless it is infinite, since the word for infinity is
another one there.
-/

namespace CityMarkup

/-! ## Forms -/

/-- Whether some characters are digits, and there is one at least. -/
def IsDigits (cs : List Char) : Prop :=
  cs ≠ [] ∧ ∀ c ∈ cs, c.isDigit = true

instance (cs : List Char) : Decidable (IsDigits cs) :=
  decidable_of_iff (cs ≠ [] ∧ cs.all Char.isDigit = true)
    (and_congr_right fun _ => List.all_eq_true)

/-- Digits, with more digits behind a point if there is one. -/
inductive IsDecimal : List Char → Prop where
  | whole {cs : List Char} (h : IsDigits cs) : IsDecimal cs
  | pointed {before after : List Char} (hbefore : IsDigits before)
      (hafter : IsDigits after) : IsDecimal (before ++ '.' :: after)

/-- The text of a number without its sign. -/
inductive IsUnsigned : List Char → Prop where
  | decimal {cs : List Char} (h : IsDecimal cs) : IsUnsigned cs
  | infinity : IsUnsigned ['I', 'N', 'F']

/-- The text of a number of the schema type for doubles, without exponent. -/
inductive IsDoubleForm : List Char → Prop where
  | nan : IsDoubleForm ['N', 'a', 'N']
  | positive {cs : List Char} (h : IsUnsigned cs) : IsDoubleForm cs
  | negative {cs : List Char} (h : IsUnsigned cs) : IsDoubleForm ('-' :: cs)

/-- The characters that stand in these forms. -/
def IsFormChar (c : Char) : Prop :=
  c.isDigit = true ∨ c ∈ ['-', '.', 'N', 'a', 'I', 'F']

theorem IsUnsigned.isFormChar {cs : List Char} (h : IsUnsigned cs) :
    ∀ c ∈ cs, IsFormChar c := by
  cases h with
  | decimal h =>
      cases h with
      | whole h => exact fun c hc => Or.inl (h.2 c hc)
      | pointed hbefore hafter =>
          intro c hc
          rcases List.mem_append.mp hc with hc | hc
          · exact Or.inl (hbefore.2 c hc)
          · rcases List.mem_cons.mp hc with rfl | hc
            · exact Or.inr (by decide)
            · exact Or.inl (hafter.2 c hc)
  | infinity => simp [IsFormChar]

theorem IsDoubleForm.isFormChar {cs : List Char} (h : IsDoubleForm cs) :
    ∀ c ∈ cs, IsFormChar c := by
  cases h with
  | nan => simp [IsFormChar]
  | positive h => exact h.isFormChar
  | negative h =>
      refine List.forall_mem_cons.mpr ⟨Or.inr (by decide), h.isFormChar⟩

/-! ## Texts of numbers -/

namespace Decimal

/-- A decimal in positional notation has digits, and behind a point, if there
is one, more digits. -/
theorem positional_cases (d : Decimal) :
    (IsDigits d.positional ∧ 0 ≤ d.exponent) ∨
      ∃ before after, d.positional = before ++ '.' :: after ∧
        IsDigits before ∧ IsDigits after ∧
        d = ⟨Nat.ofDigitChars 10 (before ++ after) 0, -after.length⟩ := by
  by_cases h : 0 ≤ d.exponent
  · exact Or.inl ⟨⟨d.positional_ne_nil, fun c hc => isDigit_of_mem_whole h hc⟩,
      h⟩
  · right
    obtain ⟨before, after, hparts, hlength, hvalue, hne, hdigits⟩ := parts_eq h
    have hafter : after ≠ [] := by
      rintro rfl
      rw [List.length_nil] at hlength
      omega
    have hexponent : d.exponent = -after.length := by omega
    refine ⟨before, after, hparts, ⟨hne, fun c hc => ?_⟩,
      ⟨hafter, fun c hc => ?_⟩, ?_⟩
    · exact hdigits c (List.mem_append_left _ hc)
    · exact hdigits c (List.mem_append_right _ hc)
    · rw [hvalue, ← hexponent]

theorem isDecimal_positional (d : Decimal) : IsDecimal d.positional := by
  obtain ⟨hdigits, -⟩ | ⟨before, after, hparts, hbefore, hafter, -⟩ :=
    d.positional_cases
  · exact .whole hdigits
  · rw [hparts]
    exact .pointed hbefore hafter

end Decimal

namespace BinaryNumber

variable {f : BinaryFormat}

theorem isDoubleForm_textWith {word : String} {x : BinaryNumber f}
    (h : x.isInfinite = true → IsUnsigned word.toList) :
    IsDoubleForm (x.textWith word).toList := by
  have hbody : IsUnsigned (x.body word) := by
    rw [body]
    split
    · rename_i hinfinite
      exact h hinfinite
    · rw [finiteText_eq]
      exact .decimal (Decimal.isDecimal_positional _)
  cases hx : x.isNaN with
  | true =>
      rw [textWith, if_pos hx]
      exact .nan
  | false =>
      rw [textWith_eq hx]
      split
      · exact .negative hbody
      · exact .positive hbody

/-- Every coordinate has the form that schemas ask for. -/
theorem isDoubleForm_coordinateText (x : BinaryNumber f) :
    IsDoubleForm x.coordinateText.toList :=
  isDoubleForm_textWith fun _ => .infinity

theorem not_isNaN_of_isInfinite {x : BinaryNumber f}
    (h : x.isInfinite = true) : x.isNaN = false := by
  rw [isNaN, eq_of_beq h, decide_eq_false_iff_not]
  exact Nat.lt_irrefl _

/-- An infinite number is spelled by a word with its sign. -/
theorem text_of_isInfinite {x : BinaryNumber f} (h : x.isInfinite = true) :
    x.text = if x.negative then "-inf" else "inf" := by
  rw [text, ← String.toList_inj, textWith_eq (not_isNaN_of_isInfinite h), body,
    if_pos h]
  cases x.negative with
  | true => rfl
  | false => rfl

/-- Elsewhere than in coordinates a number has the form that schemas ask for
unless it is infinite. -/
theorem isDoubleForm_text_iff (x : BinaryNumber f) :
    IsDoubleForm x.text.toList ↔ x.isInfinite = false := by
  constructor
  · intro hform
    by_contra hinfinite
    rw [Bool.not_eq_false] at hinfinite
    -- The letter `i` stands in the word for infinity, and in no form.
    have hmem : 'i' ∈ x.text.toList := by
      rw [text_of_isInfinite hinfinite]
      split
      · decide
      · decide
    exact absurd (hform.isFormChar _ hmem) (by unfold IsFormChar; decide)
  · intro hfinite
    exact isDoubleForm_textWith fun h => by rw [hfinite] at h; cases h

end BinaryNumber

end CityMarkup
