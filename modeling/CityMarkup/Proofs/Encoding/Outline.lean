import CityMarkup.Proofs.Encoding.Documents
import CityMarkup.Proofs.Markup.RoundTrip

/-!
# The objects of a document

The objects of a model can be found again in its text.  Each object is the
element in a wrapper, a member of the document or a boundary of another
object.  Whatever else stands next to a wrapper has another name, so that
neither is taken for the other.
-/

namespace CityMarkup

open Markup

/-- What tells an object and the objects below it apart: the type, and the
identifier if there is one. -/
structure Outline where
  type : FeatureType
  id : Option String
  children : List Outline
deriving Repr

namespace Outline

mutual

/-- The number of objects in an outline. -/
def count : Outline → Nat
  | ⟨_, _, children⟩ => 1 + countAll children

/-- The number of objects in some outlines. -/
def countAll : List Outline → Nat
  | [] => 0
  | first :: rest => first.count + countAll rest

end

/-- The part of a written name behind its prefix. -/
def localName (name : String) : String :=
  match name.toList.dropWhile fun c => c != ':' with
  | [] => name
  | _ :: rest => String.ofList rest

mutual

/-- The outline of an object, from its element. -/
def ofNode? : Node → Option Outline
  | .text _ => none
  | .element name attributes children =>
    (FeatureType.ofElementName? (localName name)).bind fun type =>
      (wrapped? "bldg:boundedBy" children).map fun below =>
        ⟨type, attributes.lookup "gml:id", below⟩

/-- The outlines of the objects in all wrappers with a name.  Each of these has
to hold one element and nothing else. -/
def wrapped? (wrapper : String) : List Node → Option (List Outline)
  | [] => some []
  | .text _ :: rest => wrapped? wrapper rest
  | .element name _ content :: rest =>
    if name = wrapper then
      match content with
      | [object] =>
        (ofNode? object).bind fun first =>
          (wrapped? wrapper rest).map (first :: ·)
      | _ => none
    else
      wrapped? wrapper rest

end

theorem wrapped?_of_ne {wrapper name : String} (h : name ≠ wrapper)
    (attributes : List (String × String)) (content rest : List Node) :
    wrapped? wrapper (.element name attributes content :: rest) =
      wrapped? wrapper rest := by
  rw [wrapped?.eq_def]
  exact if_neg h

theorem wrapped?_self (wrapper : String)
    (attributes : List (String × String)) (object : Node)
    (rest : List Node) :
    wrapped? wrapper (.element wrapper attributes [object] :: rest) =
      (ofNode? object).bind fun first =>
        (wrapped? wrapper rest).map (first :: ·) := by
  rw [wrapped?, if_pos rfl]

/-- The outlines of the members of a document, from its text. -/
def ofText? (cs : List Char) : Option (List Outline) :=
  (Reader.elementTree? cs).bind fun root =>
    match root with
    | .element "CityModel" _ children =>
      wrapped? "core:cityObjectMember" children
    | _ => none

end Outline

namespace CityObject

mutual

/-- The outline of an object. -/
def outline : CityObject → Outline
  | ⟨id, type, _, _, children, _, _, _⟩ =>
    ⟨type, if id.isEmpty then none else some id, outlines children⟩

/-- The outlines of some objects. -/
def outlines : List CityObject → List Outline
  | [] => []
  | o :: rest => o.outline :: outlines rest

end

theorem outlines_eq_map (os : List CityObject) :
    outlines os = os.map outline := by
  induction os with
  | nil => rfl
  | cons o rest ih => rw [outlines, ih, List.map_cons]

mutual

theorem count_outline : ∀ o : CityObject, o.outline.count = o.count
  | ⟨_, _, _, _, children, _, _, _⟩ => by
    rw [outline, Outline.count, count, countAll_outlines children]

theorem countAll_outlines :
    ∀ os : List CityObject, Outline.countAll (outlines os) = countAll os
  | [] => rfl
  | o :: rest => by
    rw [outlines, Outline.countAll, countAll, count_outline o,
      countAll_outlines rest]

end

end CityObject

/-! ## Written names -/

theorem Namespace.colon_notMem_abbreviation {ns : Namespace} {short : String}
    (h : ns.abbreviation = some short) : ':' ∉ short.toList := by
  have key : ∀ ns ∈ all, ∀ short ∈ ns.abbreviation, ':' ∉ short.toList := by
    decide +kernel
  exact key ns (mem_all ns) short h

theorem toList_prefixed (short name : String) :
    (short ++ ":" ++ name).toList = short.toList ++ ':' :: name.toList := by
  rw [String.toList_append, String.toList_append, List.append_assoc]
  rfl

theorem Outline.localName_prefixed {short : String}
    (h : ':' ∉ short.toList) (name : String) :
    localName (short ++ ":" ++ name) = name := by
  have hshort : ∀ c ∈ short.toList, (c != ':') = true := by
    intro c hc
    rw [bne_iff_ne]
    rintro rfl
    exact h hc
  have hdrop : (short ++ ":" ++ name).toList.dropWhile (fun c => c != ':') =
      ':' :: name.toList := by
    rw [toList_prefixed, List.dropWhile_append_of_pos hshort]
    rfl
  rw [localName, hdrop]
  exact String.ofList_toList

/-- A prefix and a plain name can be told from the name they make. -/
theorem eq_of_prefixed_eq {ns other : Namespace} {short short' : String}
    {name name' : String} (hshort : ns.abbreviation = some short)
    (hshort' : other.abbreviation = some short')
    (h : short ++ ":" ++ name = short' ++ ":" ++ name') :
    ns = other ∧ name = name' := by
  have hlocal : Outline.localName (short ++ ":" ++ name) =
      Outline.localName (short' ++ ":" ++ name') :=
    congrArg Outline.localName h
  rw [Outline.localName_prefixed
      (Namespace.colon_notMem_abbreviation hshort),
    Outline.localName_prefixed
      (Namespace.colon_notMem_abbreviation hshort')] at hlocal
  subst hlocal
  rw [String.append_left_inj, String.append_left_inj] at h
  exact ⟨Namespace.abbreviation_injective hshort (h ▸ hshort'), rfl⟩

end CityMarkup
