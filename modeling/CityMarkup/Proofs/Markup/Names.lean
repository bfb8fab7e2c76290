import CityMarkup.Markup.Node
import CityMarkup.Markup.Token

/-!
# Names in element trees

The characters that end a name in a tag are its delimiters.  A tree is plain
if no delimiter occurs in the names of its elements and attributes.  Nothing
is asked of the values of attributes or of the text between elements.
-/

namespace CityMarkup

namespace Node

mutual

/-- The names and attributes of the elements of a node, in the order of their
starts. -/
def elements : Node → List (String × List (String × String))
  | .text _ => []
  | .element name attributes children =>
    (name, attributes) :: allElements children

/-- The names and attributes of the elements of some nodes, in the order of
their starts. -/
def allElements : List Node → List (String × List (String × String))
  | [] => []
  | node :: rest => elements node ++ allElements rest

end

theorem allElements_append (first second : List Node) :
    allElements (first ++ second) = allElements first ++ allElements second
    := by
  induction first with
  | nil => rfl
  | cons node rest ih =>
      rw [List.cons_append, allElements, allElements, ih, List.append_assoc]

end Node

namespace Markup

/-- Whether a character ends a name, or the tag that the name stands in. -/
def isDelimiter (c : Char) : Bool :=
  isBlank c || isQuote c || "<>/=?!&".toList.contains c

/-- A name without delimiters. -/
structure IsName (name : String) : Prop where
  nonempty : name.toList ≠ []
  plain : ∀ c ∈ name.toList, isDelimiter c = false

/-- Decides whether a string is a name without delimiters. -/
def isNameText (name : String) : Bool :=
  !name.toList.isEmpty && !name.toList.any isDelimiter

theorem IsName.of_isNameText {name : String} (h : isNameText name = true) :
    IsName name := by
  rw [isNameText, Bool.and_eq_true, Bool.not_eq_true', Bool.not_eq_true',
    List.isEmpty_eq_false_iff, List.any_eq_false] at h
  obtain ⟨hne, hplain⟩ := h
  constructor
  · exact hne
  · intro c hc
    exact Bool.eq_false_iff.mpr (hplain c hc)

theorem IsName.of_all {names : List String}
    (h : names.all isNameText = true) {name : String} (hname : name ∈ names) :
    IsName name :=
  .of_isNameText (List.all_eq_true.mp h name hname)

/-- Whether the names in a tag have no delimiters. -/
def IsPlainTag (tag : String × List (String × String)) : Prop :=
  IsName tag.1 ∧ ∀ a ∈ tag.2, IsName a.1

end Markup

namespace Node

open Markup

/-- Whether the names of a node have no delimiters. -/
def IsPlain (node : Node) : Prop :=
  ∀ tag ∈ node.elements, IsPlainTag tag

/-- Whether the names of some nodes have no delimiters. -/
def AllPlain (nodes : List Node) : Prop :=
  ∀ tag ∈ allElements nodes, IsPlainTag tag

theorem isPlain_element {name : String}
    {attributes : List (String × String)} {children : List Node} :
    (Node.element name attributes children).IsPlain ↔
      IsPlainTag (name, attributes) ∧ AllPlain children := by
  rw [IsPlain, elements, List.forall_mem_cons]
  rfl

theorem allPlain_cons {node : Node} {rest : List Node} :
    AllPlain (node :: rest) ↔ node.IsPlain ∧ AllPlain rest := by
  rw [AllPlain, allElements, List.forall_mem_append]
  rfl

end Node

namespace Markup

/-! ## What is not in a name -/

variable {name : String} {c : Char}

theorem IsName.ne_of_isDelimiter (h : IsName name) (hc : c ∈ name.toList)
    {d : Char} (hd : isDelimiter d = true) : c ≠ d := by
  rintro rfl
  rw [h.plain c hc] at hd
  cases hd

theorem IsName.isBlank_eq_false (h : IsName name) (hc : c ∈ name.toList) :
    isBlank c = false := by
  have hplain := h.plain c hc
  simp only [isDelimiter, Bool.or_eq_false_iff] at hplain
  exact hplain.1.1

theorem IsName.isQuote_eq_false (h : IsName name) (hc : c ∈ name.toList) :
    isQuote c = false := by
  have hplain := h.plain c hc
  simp only [isDelimiter, Bool.or_eq_false_iff] at hplain
  exact hplain.1.2

/-! ## Names in XML -/

/-- The codes of the characters that a name in XML begins with. -/
def nameStartCodes : List (Nat × Nat) :=
  [(0x3A, 0x3A), (0x41, 0x5A), (0x5F, 0x5F), (0x61, 0x7A), (0xC0, 0xD6),
    (0xD8, 0xF6), (0xF8, 0x2FF), (0x370, 0x37D), (0x37F, 0x1FFF),
    (0x200C, 0x200D), (0x2070, 0x218F), (0x2C00, 0x2FEF), (0x3001, 0xD7FF),
    (0xF900, 0xFDCF), (0xFDF0, 0xFFFD), (0x10000, 0xEFFFF)]

/-- The codes of the characters that a name in XML goes on with. -/
def nameCodes : List (Nat × Nat) :=
  nameStartCodes ++ [(0x2D, 0x2E), (0x30, 0x39), (0xB7, 0xB7),
    (0x300, 0x36F), (0x203F, 0x2040)]

/-- Whether the code of a character is in one of some ranges. -/
def isCoded (ranges : List (Nat × Nat)) (c : Char) : Bool :=
  ranges.any fun range => range.1 ≤ c.toNat && c.toNat ≤ range.2

/-- Whether a string is a name in XML. -/
def isXmlName (name : String) : Bool :=
  match name.toList with
  | [] => false
  | c :: rest => isCoded nameStartCodes c && rest.all (isCoded nameCodes)

/-- The characters that are delimiters. -/
def delimiters : List Char :=
  [' ', '\t', '\r', '\n', '\'', '"', '<', '>', '/', '=', '?', '!', '&']

theorem isDelimiter_eq_false_of_isCoded {c : Char}
    (h : isCoded nameCodes c = true) : isDelimiter c = false := by
  rw [Bool.eq_false_iff]
  intro hdelimiter
  have hmem : c ∈ delimiters := by
    simpa [delimiters, isDelimiter, isBlank, isQuote, or_assoc]
      using hdelimiter
  have key : delimiters.all (fun d => !isCoded nameCodes d) = true := by
    decide
  have hcode := List.all_eq_true.mp key c hmem
  rw [h] at hcode
  cases hcode

/-- A name in XML has no delimiters. -/
theorem IsName.of_isXmlName {name : String} (h : isXmlName name = true) :
    IsName name := by
  rw [isXmlName] at h
  cases hname : name.toList with
  | nil =>
      rw [hname] at h
      cases h
  | cons c rest =>
      simp only [hname, Bool.and_eq_true] at h
      obtain ⟨hstart, hrest⟩ := h
      have hfirst : isCoded nameCodes c = true := by
        rw [isCoded, nameCodes, List.any_append, ← isCoded, hstart]
        rfl
      constructor
      · rw [hname]
        exact List.cons_ne_nil c rest
      · rw [hname, List.forall_mem_cons]
        refine ⟨isDelimiter_eq_false_of_isCoded hfirst, fun d hd => ?_⟩
        exact isDelimiter_eq_false_of_isCoded (List.all_eq_true.mp hrest d hd)

end Markup

/-- A tree is plain if its elements and attributes have names in XML. -/
theorem Node.isPlain_of_isXmlName {node : Node}
    (h : ∀ tag ∈ node.elements, Markup.isXmlName tag.1 = true ∧
      ∀ a ∈ tag.2, Markup.isXmlName a.1 = true) : node.IsPlain := by
  intro tag htag
  obtain ⟨hname, hattributes⟩ := h tag htag
  exact ⟨.of_isXmlName hname, fun a ha => .of_isXmlName (hattributes a ha)⟩

end CityMarkup
