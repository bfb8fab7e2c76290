import CityMarkup.Proofs.Encoding.Values

/-!
# Numbers in a document

Every number that a model holds is one token of a text in its document.  The
coordinates of positions have the form that schemas ask for.  The numbers of
attributes, materials and textures have it unless they are infinite, and then
they are spelled with another word, so that one document may spell the same
number in two ways.
-/

namespace CityMarkup

namespace BinaryNumber

variable {f : BinaryFormat}

/-- How a number is spelled, given the word for infinity: in decimal digits,
with a minus sign if its sign is set, or by a word. -/
inductive IsSpelled (word : String) (x : BinaryNumber f) :
    List Char → Prop where
  | nan (h : x.isNaN = true) : IsSpelled word x ['N', 'a', 'N']
  | infinite (h : x.isInfinite = true) :
      IsSpelled word x
        (if x.negative then '-' :: word.toList else word.toList)
  | finite (hnan : x.isNaN = false) (hinfinite : x.isInfinite = false)
      {cs : List Char} (h : IsDecimal cs) :
      IsSpelled word x (if x.negative then '-' :: cs else cs)

theorem isSpelled_textWith (word : String) (x : BinaryNumber f) :
    x.IsSpelled word (x.textWith word).toList := by
  cases hnan : x.isNaN with
  | true =>
      rw [textWith, if_pos hnan]
      exact .nan hnan
  | false =>
      rw [textWith_eq hnan, body]
      cases hinfinite : x.isInfinite with
      | true => exact .infinite hinfinite
      | false =>
          refine .finite hnan hinfinite ?_
          rw [finiteText_eq]
          exact Decimal.isDecimal_positional _

/-- The token for a coordinate has the form that schemas ask for. -/
def IsCoordinateToken (x : BinaryNumber f) (token : String) : Prop :=
  x.IsSpelled "INF" token.toList ∧ IsDoubleForm token.toList

/-- The token for another number has the form that schemas ask for unless the
number is infinite. -/
def IsOtherToken (x : BinaryNumber f) (token : String) : Prop :=
  x.IsSpelled "inf" token.toList ∧
    (IsDoubleForm token.toList ↔ x.isInfinite = false)

theorem isCoordinateToken_coordinateText (x : BinaryNumber f) :
    x.IsCoordinateToken x.coordinateText :=
  ⟨x.isSpelled_textWith "INF", x.isDoubleForm_coordinateText⟩

theorem isOtherToken_text (x : BinaryNumber f) : x.IsOtherToken x.text :=
  ⟨x.isSpelled_textWith "inf", x.isDoubleForm_text_iff⟩

end BinaryNumber

open BinaryNumber

/-- Whether a text has one token for each number of a value, each spelled like
the numbers of this sort. -/
def Value.IsSpelled (text : String) : Value → Prop
  | .positions vertices =>
    List.Forall₂ IsCoordinateToken (vertices.flatMap Position.coordinates)
      (tokensOf text)
  | .numbers xs => List.Forall₂ IsOtherToken xs (tokensOf text)
  | .attributeValue (.double x) =>
    List.Forall₂ IsOtherToken [x] (tokensOf text)
  | .attributeValue _ => True

theorem Value.isSpelled_text (value : Value) : value.IsSpelled value.text := by
  cases value with
  | positions vertices =>
      have htokens : tokensOf (Position.listText vertices) =
          Position.tokens vertices := by
        rw [Position.listText_eq]
        exact tokensOf_intercalate fun _ => Position.isToken_of_mem_tokens
      rw [IsSpelled, text, htokens, Position.tokens,
        List.forall₂_map_right_iff, List.forall₂_same]
      exact fun x _ => x.isCoordinateToken_coordinateText
  | numbers xs =>
      rw [IsSpelled, text, tokensOf_listText, List.forall₂_map_right_iff,
        List.forall₂_same]
      exact fun x _ => x.isOtherToken_text
  | attributeValue value =>
      cases value with
      | double x =>
          have htokens : tokensOf x.text = [x.text] := by
            have hsingle := tokensOf_listText [x]
            rwa [listText, List.map_singleton,
              String.intercalate_singleton] at hsingle
          rw [IsSpelled, text, AttributeValue.text, htokens,
            List.forall₂_cons]
          exact ⟨x.isOtherToken_text, .nil⟩
      | _ => trivial

/-- With valid options, the elements for values in the document are those for
the values of the model that are to be written, each in its place.  Their texts
have one token for each number.  The tokens of coordinates have the form that
schemas ask for, and all others have it unless they are for an infinite
number. -/
theorem Writer.encode_spellsNumbers (w : Writer) (m : CityModel)
    (hvalid : w.options.validate = .ok ()) :
    ∃ root, w.Builds m root ∧
      List.Forall₂
        (fun (value : Place × Value) found =>
          found.1 = value.1.written ∧ value.2.IsSpelled found.2)
        (m.values w.options) root.toNode.valueTexts := by
  refine ⟨m.encodedRoot w.options,
    builds_encodedRoot m hvalid ⟨rfl, rfl, rfl, rfl, rfl⟩, ?_⟩
  rw [m.valueTexts_encodedRoot, List.forall₂_map_right_iff, List.forall₂_same]
  exact fun value _ => ⟨rfl, value.2.isSpelled_text⟩

/-- A number that is infinite. -/
def BinaryNumber.unbounded : Double :=
  .ofBits .binary64 0x7ff0000000000000

/-- A model with an infinite extent and an infinite attribute. -/
def CityModel.unbounded : CityModel :=
  ⟨"", none, ⟨⟨.zero, .zero, .zero⟩, ⟨.unbounded, .zero, .zero⟩, none⟩,
    Dictionary.empty.insert "limit" (.double .unbounded), []⟩

theorem CityModel.values_unbounded :
    unbounded.values .standard =
      [((.generics, "value"), .attributeValue (.double .unbounded)),
        ((.gml, "lowerCorner"), .positions [⟨.zero, .zero, .zero⟩]),
        ((.gml, "upperCorner"), .positions [⟨.unbounded, .zero, .zero⟩])] := by
  decide +kernel

/-- The token for an infinite attribute has no form that schemas ask for. -/
theorem Writer.encode_spellsNumbers_unbounded :
    Options.standard.validate = .ok () ∧
      ∃ root, (Writer.new .standard).Builds .unbounded root ∧
        ∃ found ∈ root.toNode.valueTexts, found.1 = "gen:value" ∧
          ∃ token ∈ tokensOf found.2, ¬IsDoubleForm token.toList := by
  obtain ⟨root, hbuilds, hspelled⟩ := encode_spellsNumbers (.new .standard)
    .unbounded Options.validate_standard
  change List.Forall₂ _ (CityModel.unbounded.values .standard) _ at hspelled
  rw [CityModel.values_unbounded, List.forall₂_cons_left_iff] at hspelled
  obtain ⟨found, rest, ⟨hname, htokens⟩, -, htexts⟩ := hspelled
  obtain ⟨token, more, ⟨-, hform⟩, -, htoken⟩ :=
    List.forall₂_cons_left_iff.mp htokens
  have hwritten : Place.written (.generics, "value") = "gen:value" := by decide
  have hinfinite : unbounded.isInfinite = true := by decide +kernel
  refine ⟨Options.validate_standard, root, hbuilds, found, ?_,
    hname.trans hwritten, token, ?_, ?_⟩
  · rw [htexts]
    exact List.mem_cons_self
  · rw [htoken]
    exact List.mem_cons_self
  · rw [hform, hinfinite]
    decide

/-- Of the two infinite numbers in one document, the coordinate is spelled as
schemas ask for, and the attribute is spelled in another way. -/
theorem Writer.encode_spellsApart :
    Options.standard.validate = .ok () ∧
      ∃ root, (Writer.new .standard).Builds .unbounded root ∧
        CityModel.unbounded.values .standard =
          [((.generics, "value"), .attributeValue (.double .unbounded)),
            ((.gml, "lowerCorner"), .positions [⟨.zero, .zero, .zero⟩]),
            ((.gml, "upperCorner"),
              .positions [⟨.unbounded, .zero, .zero⟩])] ∧
        root.toNode.valueTexts =
          [("gen:value", "inf"), ("gml:lowerCorner", "0 0 0"),
            ("gml:upperCorner", "INF 0 0")] ∧
        IsDoubleForm "INF".toList ∧ ¬IsDoubleForm "inf".toList := by
  refine ⟨Options.validate_standard, CityModel.unbounded.encodedRoot .standard,
    builds_encodedRoot .unbounded Options.validate_standard
      ⟨rfl, rfl, rfl, rfl, rfl⟩,
    CityModel.values_unbounded, by decide +kernel, .positive .infinity, ?_⟩
  intro hform
  have hletter := hform.isFormChar 'i' (by decide)
  exact absurd hletter (by unfold IsFormChar; decide)

end CityMarkup
