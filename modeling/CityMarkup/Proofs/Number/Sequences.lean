import CityMarkup.Proofs.Number.Reading

/-!
# Sequences of numbers

Some numbers are written as one text, with a space between neighbours.  The text
falls apart into one token for each number, and reading the tokens gives the
numbers back, up to what is told of values that are no number.
-/

namespace CityMarkup

/-! ## Tokens -/

/-- The pieces of a text between its spaces. -/
def spaceSeparated (text : String) : List String :=
  (text.split ' ').toList.map fun piece => piece.copy

/-- The pieces of a text between its spaces that are not empty. -/
def tokensOf (text : String) : List String :=
  (spaceSeparated text).filter fun piece => !piece.isEmpty

/-- Whether a text is one token. -/
def IsToken (text : String) : Prop :=
  ' ' ∉ text.toList ∧ text.toList ≠ []

theorem spaceSeparated_intercalate_eq {pieces : List String}
    (hspace : ∀ piece ∈ pieces, ' ' ∉ piece.toList) :
    spaceSeparated (" ".intercalate pieces) =
      if pieces = [] then [""] else pieces :=
  String.toList_split_intercalate hspace

theorem spaceSeparated_intercalate {pieces : List String}
    (hspace : ∀ piece ∈ pieces, ' ' ∉ piece.toList) (hne : pieces ≠ []) :
    spaceSeparated (" ".intercalate pieces) = pieces := by
  rw [spaceSeparated_intercalate_eq hspace, if_neg hne]

theorem tokensOf_intercalate {pieces : List String}
    (h : ∀ piece ∈ pieces, IsToken piece) :
    tokensOf (" ".intercalate pieces) = pieces := by
  rw [tokensOf, spaceSeparated_intercalate_eq fun piece hpiece =>
    (h piece hpiece).1]
  by_cases hne : pieces = []
  · rw [if_pos hne, hne]
    rfl
  · rw [if_neg hne, List.filter_eq_self]
    intro piece hpiece
    have hfilled := (h piece hpiece).2
    simpa using hfilled

/-- Texts of several tokens each may be joined in one step or in two. -/
theorem intercalate_intercalate {α : Type} {pieces : α → List String}
    (hne : ∀ a, pieces a ≠ []) (l : List α) :
    " ".intercalate (l.map fun a => " ".intercalate (pieces a)) =
      " ".intercalate (l.flatMap pieces) := by
  induction l with
  | nil => rfl
  | cons a rest ih =>
      rw [List.map_cons, List.flatMap_cons]
      cases rest with
      | nil => rw [List.map_nil, String.intercalate_singleton,
          List.flatMap_nil, List.append_nil]
      | cons b more =>
          have hrest : (b :: more).flatMap pieces ≠ [] := by
            rw [List.flatMap_cons]
            exact List.append_ne_nil_of_left_ne_nil (hne b) _
          rw [String.intercalate_append_of_ne_nil (hne a) hrest, ← ih,
            List.map_cons, String.intercalate_cons_cons]

/-! ## Numbers -/

namespace BinaryNumber

variable {f : BinaryFormat}

/-- The texts of some numbers, separated by spaces. -/
def listText (xs : List (BinaryNumber f)) : String :=
  " ".intercalate (xs.map text)

/-- The numbers of a text that are separated by spaces. -/
def ofListText? (listText : String) : Option (List (BinaryNumber f)) :=
  (tokensOf listText).mapM (ofText? "inf")

theorem tokensOf_listText (xs : List (BinaryNumber f)) :
    tokensOf (listText xs) = xs.map text := by
  apply tokensOf_intercalate
  intro piece hpiece
  obtain ⟨x, -, rfl⟩ := List.mem_map.mp hpiece
  exact space_notMem_textWith isInfinityWord_text x

/-- Reading the text of some numbers gives the numbers. -/
theorem ofListText?_listText (xs : List (BinaryNumber f)) :
    ofListText? (listText xs) = some (xs.map canonical) := by
  rw [ofListText?, tokensOf_listText]
  induction xs with
  | nil => rfl
  | cons x rest ih =>
      rw [List.map_cons, List.mapM_cons, ih, text,
        ofText?_textWith isInfinityWord_text]
      rfl

end BinaryNumber

/-! ## Single numbers -/

namespace Single

open BinaryNumber

theorem isNaN_nan : (nan : Single).isNaN = true := by decide

theorem text_canonical (x : Single) : x.canonical.text = x.text := by
  rw [canonical]
  split
  · rename_i hx
    rw [text, text, textWith, textWith, if_pos isNaN_nan, if_pos hx]
  · rfl

theorem isZero_canonical (x : Single) : x.canonical.isZero = x.isZero := by
  rw [canonical]
  split
  · rename_i hx
    -- A magnitude beyond that of infinity is not zero.
    have hlarge : BinaryFormat.infinity .binary32 < x.magnitude :=
      of_decide_eq_true hx
    have hzero : x.isZero = false := by
      rw [isZero, beq_eq_false_iff_ne]
      omega
    rw [hzero]
    decide
  · rfl

end Single

end CityMarkup
