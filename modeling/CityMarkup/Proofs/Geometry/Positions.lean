import CityMarkup.Proofs.Encoding.Nodes
import CityMarkup.Proofs.Number.Sequences

/-!
# Lists of positions and their texts

A list of positions is written as one text.  The text falls apart at its
spaces into three tokens for each position, so it tells how many positions
there are, and it tells each coordinate unless that is no number.
-/

namespace CityMarkup

/-- The same number, or no number on both sides. -/
def BinaryNumber.Agrees {f : BinaryFormat} (x y : BinaryNumber f) : Prop :=
  x = y ∨ (x.isNaN = true ∧ y.isNaN = true)

theorem BinaryNumber.coordinateText_eq_iff {f : BinaryFormat}
    (x y : BinaryNumber f) :
    x.coordinateText = y.coordinateText ↔ x.Agrees y :=
  textWith_eq_iff isInfinityWord_coordinate x y

namespace Position

/-- Agreement of positions in each coordinate. -/
structure Agrees (p q : Position) : Prop where
  x : p.x.Agrees q.x
  y : p.y.Agrees q.y
  z : p.z.Agrees q.z

/-- The coordinates of a position. -/
def coordinates (p : Position) : List Double :=
  [p.x, p.y, p.z]

/-- The texts of the coordinates of some positions, one after the other. -/
def tokens (vertices : List Position) : List String :=
  (vertices.flatMap coordinates).map BinaryNumber.coordinateText

theorem tokens_cons (p : Position) (rest : List Position) :
    tokens (p :: rest) = tokens [p] ++ tokens rest := by
  rw [tokens, tokens, tokens, ← List.map_append, ← List.flatMap_append,
    List.singleton_append]

theorem length_tokens (vertices : List Position) :
    (tokens vertices).length = 3 * vertices.length := by
  induction vertices with
  | nil => rfl
  | cons p rest ih =>
      have hthree : (tokens [p]).length = 3 := rfl
      rw [tokens_cons, List.length_append, hthree, ih, List.length_cons]
      omega

theorem tokens_ne_nil {vertices : List Position} (h : vertices ≠ []) :
    tokens vertices ≠ [] := by
  intro hnil
  have hlength := length_tokens vertices
  have hpos := List.length_pos_iff.mpr h
  rw [hnil, List.length_nil] at hlength
  omega

/-- Every token is there, and none of them holds a space. -/
theorem isToken_of_mem_tokens {vertices : List Position} {token : String}
    (h : token ∈ tokens vertices) :
    ' ' ∉ token.toList ∧ token.toList ≠ [] := by
  obtain ⟨x, -, rfl⟩ := List.mem_map.mp h
  exact BinaryNumber.space_notMem_textWith
    BinaryNumber.isInfinityWord_coordinate x

theorem listText_eq (vertices : List Position) :
    listText vertices = " ".intercalate (tokens vertices) := by
  have htext : text = fun p : Position =>
      " ".intercalate (p.coordinates.map BinaryNumber.coordinateText) := by
    funext p
    simp [text, coordinates, String.intercalate_cons_cons,
      String.append_assoc]
  have hne : ∀ p : Position,
      p.coordinates.map BinaryNumber.coordinateText ≠ [] :=
    fun p => List.cons_ne_nil _ _
  rw [listText, htext, intercalate_intercalate hne, tokens, List.map_flatMap]

/-- The text of some positions falls apart into their coordinates. -/
theorem spaceSeparated_listText {vertices : List Position}
    (h : vertices ≠ []) :
    spaceSeparated (listText vertices) = tokens vertices := by
  rw [listText_eq]
  apply spaceSeparated_intercalate
  · intro token htoken
    exact (isToken_of_mem_tokens htoken).1
  · exact tokens_ne_nil h

theorem tokens_eq_iff (vertices others : List Position) :
    tokens vertices = tokens others ↔
      List.Forall₂ Agrees vertices others := by
  rw [tokens, tokens, map_eq_map_iff_forall₂]
  simp only [BinaryNumber.coordinateText_eq_iff]
  induction vertices generalizing others with
  | nil =>
      cases others with
      | nil => simp
      | cons q more => simp [coordinates]
  | cons p rest ih =>
      cases others with
      | nil => simp [coordinates]
      | cons q more =>
          rw [List.flatMap_cons, List.flatMap_cons, List.forall₂_cons]
          simp only [coordinates, List.cons_append, List.nil_append,
            List.forall₂_cons]
          rw [← ih]
          constructor
          · rintro ⟨hx, hy, hz, hrest⟩
            exact ⟨⟨hx, hy, hz⟩, hrest⟩
          · rintro ⟨⟨hx, hy, hz⟩, hrest⟩
            exact ⟨hx, hy, hz, hrest⟩

/-- The element for some positions tells the positions. -/
theorem toNodes_listFragments_eq_iff (s : Settings)
    (vertices others : List Position) :
    Fragment.toNodes s (listFragments vertices) =
        Fragment.toNodes s (listFragments others) ↔
      List.Forall₂ Agrees vertices others := by
  cases vertices with
  | nil =>
      cases others with
      | nil => simp
      | cons q more => simp [listFragments, Fragment.toNodes]
  | cons p rest =>
      cases others with
      | nil => simp [listFragments, Fragment.toNodes]
      | cons q more =>
          rw [← tokens_eq_iff]
          constructor
          · intro h
            have htext : listText (p :: rest) = listText (q :: more) := by
              simpa [listFragments, Fragment.toNodes, Fragment.toNode] using h
            rw [← spaceSeparated_listText (List.cons_ne_nil p rest),
              ← spaceSeparated_listText (List.cons_ne_nil q more), htext]
          · intro h
            simp [listFragments, listText_eq, h]

end Position

end CityMarkup
