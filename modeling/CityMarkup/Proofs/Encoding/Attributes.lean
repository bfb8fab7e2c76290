import CityMarkup.Proofs.Encoding.Nodes
import CityMarkup.Proofs.Encoding.Outline
import CityMarkup.Proofs.Number.Integers
import CityMarkup.Proofs.Number.Reading
import CityMarkup.Proofs.Text.Order
import Mathlib.Data.List.TakeWhile

/-!
# Attributes in a document

What is written for attributes can be read again without knowing which
namespaces are declared.  A wrapper is told from a property by its local name,
since no property is named like a wrapper; a wrapper carries the name of its
attribute along, and its own name tells the kind of the value.  Texts stand for
themselves, and a number is read from its digits.  Reading hence gives back the
attributes that are written, in their order.
-/

namespace CityMarkup

/-! ## Written names -/

theorem Outline.localName_of_plain {name : String}
    (h : name.toList.all Char.isAlphanum = true) : localName name = name := by
  have hdrop : name.toList.dropWhile (fun c => c != ':') = [] := by
    rw [List.dropWhile_eq_nil_iff]
    intro c hc
    rw [bne_iff_ne]
    rintro rfl
    have hcolon := List.all_eq_true.mp h _ hc
    revert hcolon
    decide
  rw [localName, hdrop]

/-- A plain name is found behind the prefix, and also where no prefix is
written. -/
theorem Settings.localName_qualify (s : Settings) {name : String}
    (h : name.toList.all Char.isAlphanum = true) (ns : Namespace) :
    Outline.localName (s.qualify name ns) = name := by
  rw [qualify]
  cases hshort : ns.abbreviation with
  | none => exact Outline.localName_of_plain h
  | some short =>
      by_cases hdeclared : s.isDeclared ns = true
      · simp only [if_pos hdeclared]
        exact Outline.localName_prefixed
          (Namespace.colon_notMem_abbreviation hshort) name
      · simp only [if_neg hdeclared]
        exact Outline.localName_of_plain h

/-! ## Reading -/

/-- The kinds of attribute values. -/
inductive AttributeKind where
  | string
  | double
  | integer
  | date
  | uri
deriving DecidableEq, Repr

/-- The kind of a value. -/
def AttributeValue.kind : AttributeValue → AttributeKind
  | string _ => .string
  | double _ => .double
  | integer _ => .integer
  | date _ => .date
  | uri _ => .uri

/-- The local names of the wrappers, each with the kind of its value. -/
def AttributeKind.wrappers : List (String × AttributeKind) :=
  [("stringAttribute", .string), ("doubleAttribute", .double),
    ("intAttribute", .integer), ("dateAttribute", .date),
    ("uriAttribute", .uri)]

/-- The value of a kind that a text stands for.  Strings, dates and uris stand
for themselves, and numbers are read from their digits. -/
def AttributeKind.read? : AttributeKind → String → Option AttributeValue
  | string, text => some (.string text)
  | double, text => (BinaryNumber.ofText? "inf" text).map .double
  | integer, text => (int64? text).map .integer
  | date, text => some (.date text)
  | uri, text => some (.uri text)

/-- The value itself, with one value for all that are no number. -/
def AttributeValue.normal : AttributeValue → AttributeValue
  | double number => double number.canonical
  | value => value

/-- Whether a text stands for a value, as its kind reads it. -/
def AttributeValue.IsSpelled (value : AttributeValue) (text : String) : Prop :=
  value.kind.read? text = some value.normal

/-- Reading the text of a value gives the value. -/
theorem AttributeValue.isSpelled_text (value : AttributeValue) :
    value.IsSpelled value.text := by
  cases value with
  | double number =>
      exact congrArg (Option.map AttributeValue.double)
        (BinaryNumber.ofText?_textWith BinaryNumber.isInfinityWord_text number)
  | integer number =>
      exact congrArg (Option.map AttributeValue.integer)
        (int64?_eq_some_iff.mpr rfl)
  | string text => rfl
  | date text => rfl
  | uri text => rfl

namespace Node

/-- The kind of the value in a wrapper.  An element that is no wrapper tells
none. -/
def wrappedKind? : Node → Option AttributeKind
  | .element name _ _ => AttributeKind.wrappers.lookup (Outline.localName name)
  | .text _ => none

/-- The text of an element that holds one piece of text and nothing else. -/
def heldText? : Node → Option String
  | .element _ _ [.text value] => some value
  | _ => none

/-- The text of the value of a wrapper, from its content. -/
def wrappedText? : List Node → Option String
  | [.element name attributes content] =>
    if Outline.localName name = "value" then
      heldText? (.element name attributes content)
    else
      none
  | _ => none

/-- The name and the text of an attribute, from its element.  A wrapper gives
the name it carries and the text of its value, a property its own local name
and its own text. -/
def attribute? : Node → Option (String × String)
  | .text _ => none
  | .element name attributes content =>
    if (wrappedKind? (.element name attributes content)).isSome then
      (attributes.lookup "name").bind fun found =>
        (wrappedText? content).map fun text => (found, text)
    else
      (heldText? (.element name attributes content)).map fun text =>
        (Outline.localName name, text)

/-- The name and the value of an attribute whose kind is known, from its
element. -/
def entry? (kind : AttributeKind) (node : Node) :
    Option (String × AttributeValue) :=
  node.attribute?.bind fun found =>
    (kind.read? found.2).map fun value => (found.1, value)

end Node

/-! ## Written attributes -/

/-- Whether a name stands for a property whose namespace is declared. -/
def Settings.offers (s : Settings) (name : String) : Bool :=
  KnownAttribute.all.any fun known =>
    known.name == name && s.isDeclared known.ns

theorem Settings.offers_iff {s : Settings} {name : String} :
    s.offers name = true ↔
      ∃ known ∈ KnownAttribute.all, known.name = name ∧
        s.isDeclared known.ns = true := by
  simp only [offers, List.any_eq_true, Bool.and_eq_true, beq_iff_eq]

/-- The element for an attribute: the property that it stands for if the
namespace of that is declared, and a wrapper if there is no such property.  It
holds a text that stands for the value. -/
inductive AttributeValue.IsWritten (s : Settings) :
    String × AttributeValue → Node → Prop where
  | property {name text : String} {value : AttributeValue}
      {known : KnownAttribute} (hknown : known ∈ KnownAttribute.all)
      (hname : known.name = name) (hdeclared : s.isDeclared known.ns = true)
      (htext : value.IsSpelled text) :
      IsWritten s (name, value)
        (.element (s.qualify known.localName known.ns) [] [.text text])
  | wrapper {name text : String} {value : AttributeValue}
      (hother : s.offers name = false) (htext : value.IsSpelled text) :
      IsWritten s (name, value)
        (.element (s.qualify value.genericName .generics) [("name", name)]
          [.element (s.qualify "value" .generics) [] [.text text]])

/-- The attributes that are written: all of them if generic attributes are
wanted, and otherwise those for which there is a property. -/
def Attributes.shown (s : Settings) (generic : Bool)
    (attributes : Attributes) : List (String × AttributeValue) :=
  if generic then attributes.entries
  else attributes.entries.filter fun entry => s.offers entry.1

/-- No property is named like a wrapper, and each has the name of its
attribute. -/
theorem KnownAttribute.localName_of_mem {known : KnownAttribute}
    (h : known ∈ all) :
    known.localName = known.name ∧
      AttributeKind.wrappers.lookup known.localName = none := by
  have key : ∀ known ∈ all, known.localName = known.name ∧
      AttributeKind.wrappers.lookup known.localName = none := by
    decide +kernel
  exact key known h

/-- Each property is the one that is found for its name. -/
theorem KnownAttribute.lookup?_eq_some_iff {known : KnownAttribute}
    {name : String} :
    lookup? name = some known ↔ known ∈ all ∧ known.name = name := by
  have key : ∀ known ∈ all, lookup? known.name = some known := by
    decide +kernel
  constructor
  · intro h
    rw [lookup?] at h
    have hname := List.find?_some h
    exact ⟨List.mem_of_find?_eq_some h, eq_of_beq hname⟩
  · rintro ⟨hmem, rfl⟩
    exact key known hmem

theorem AttributeValue.lookup_genericName (value : AttributeValue) :
    AttributeKind.wrappers.lookup value.genericName = some value.kind := by
  cases value <;> rfl

namespace Node

variable {s : Settings}

theorem wrappedKind?_property {known : KnownAttribute}
    (h : known ∈ KnownAttribute.all) (attributes : List (String × String))
    (content : List Node) :
    wrappedKind? (.element (s.qualify known.localName known.ns) attributes
      content) = none := by
  rw [wrappedKind?, s.localName_qualify (KnownAttribute.plain_of_mem h).1,
    (KnownAttribute.localName_of_mem h).2]

theorem wrappedKind?_wrapper (value : AttributeValue)
    (attributes : List (String × String)) (content : List Node) :
    wrappedKind? (.element (s.qualify value.genericName .generics) attributes
      content) = some value.kind := by
  rw [wrappedKind?, s.localName_qualify value.plain_genericName,
    value.lookup_genericName]

theorem attribute?_property {known : KnownAttribute}
    (h : known ∈ KnownAttribute.all) (text : String) :
    attribute? (.element (s.qualify known.localName known.ns) []
      [.text text]) = some (known.name, text) := by
  rw [attribute?, wrappedKind?_property h, heldText?,
    s.localName_qualify (KnownAttribute.plain_of_mem h).1,
    (KnownAttribute.localName_of_mem h).1]
  rfl

theorem attribute?_wrapper (value : AttributeValue) (name text : String) :
    attribute? (.element (s.qualify value.genericName .generics)
      [("name", name)]
      [.element (s.qualify "value" .generics) [] [.text text]]) =
        some (name, text) := by
  rw [attribute?, wrappedKind?_wrapper, wrappedText?, heldText?,
    s.localName_qualify (by decide), if_pos rfl]
  rfl

end Node

namespace AttributeValue.IsWritten

variable {s : Settings} {entry : String × AttributeValue} {node : Node}

theorem wrappedKind?_eq (h : IsWritten s entry node) :
    node.wrappedKind? =
      if s.offers entry.1 then none else some entry.2.kind := by
  cases h with
  | @property name text value known hknown hname hdeclared htext =>
      have hoffers : s.offers name = true :=
        Settings.offers_iff.mpr ⟨known, hknown, hname, hdeclared⟩
      rw [Node.wrappedKind?_property hknown, if_pos hoffers]
  | @wrapper name text value hother htext =>
      rw [Node.wrappedKind?_wrapper, if_neg (by simp [hother])]

/-- The name of an attribute and a text that stands for its value are read from
its element. -/
theorem attribute?_eq (h : IsWritten s entry node) :
    ∃ text, node.attribute? = some (entry.1, text) ∧
      entry.2.IsSpelled text := by
  cases h with
  | property hknown hname hdeclared htext =>
      exact ⟨_, hname ▸ Node.attribute?_property hknown _, htext⟩
  | wrapper hother htext =>
      exact ⟨_, Node.attribute?_wrapper _ _ _, htext⟩

theorem entry?_eq (h : IsWritten s entry node) :
    node.entry? entry.2.kind = some (entry.1, entry.2.normal) := by
  obtain ⟨text, hattribute, htext⟩ := h.attribute?_eq
  rw [IsSpelled] at htext
  rw [Node.entry?, hattribute, Option.bind_some, htext, Option.map_some]

end AttributeValue.IsWritten

namespace Attributes

/-- The element for an attribute that is written. -/
def entryFragment (declared : Namespace → Bool)
    (entry : String × AttributeValue) : Fragment :=
  match (KnownAttribute.lookup? entry.1).filter
      fun known => declared known.ns with
  | some known => .textElement known.localName known.ns entry.2.text
  | none => entry.2.genericFragment entry.1

variable (s : Settings)

theorem isSome_lookup?_filter (name : String) :
    ((KnownAttribute.lookup? name).filter fun known =>
      s.isDeclared known.ns).isSome = s.offers name := by
  rw [Bool.eq_iff_iff, Settings.offers_iff,
    Option.isSome_iff_exists]
  simp only [Option.filter_eq_some_iff, KnownAttribute.lookup?_eq_some_iff,
    and_assoc]

theorem entryFragments_eq (generic : Bool)
    (entry : String × AttributeValue) :
    entryFragments s.isDeclared generic entry =
      if generic || s.offers entry.1 then [entryFragment s.isDeclared entry]
      else [] := by
  rw [entryFragments, entryFragment, ← isSome_lookup?_filter]
  cases (KnownAttribute.lookup? entry.1).filter
      fun known => s.isDeclared known.ns with
  | some known => rw [Option.isSome_some, Bool.or_true, if_pos rfl]
  | none => rw [Option.isSome_none, Bool.or_false]

theorem shown_eq_filter (generic : Bool) (attributes : Attributes) :
    attributes.shown s generic =
      attributes.entries.filter fun entry => generic || s.offers entry.1 := by
  cases generic with
  | true => exact (List.filter_eq_self.mpr fun _ _ => rfl).symm
  | false => rfl

theorem fragments_eq_map_shown (generic : Bool) (attributes : Attributes) :
    attributes.fragments s.isDeclared generic =
      (attributes.shown s generic).map (entryFragment s.isDeclared) := by
  rw [fragments, shown_eq_filter]
  induction attributes.entries with
  | nil => rfl
  | cons entry rest ih =>
      rw [List.flatMap_cons, ih, entryFragments_eq, List.filter_cons]
      split
      · rfl
      · rfl

/-- The element for an attribute that is written is that of its property, if the
namespace of that is declared, and otherwise a wrapper. -/
theorem entryFragment_cases (name : String) (value : AttributeValue) :
    (∃ known ∈ KnownAttribute.all, known.name = name ∧
        s.isDeclared known.ns = true ∧
        entryFragment s.isDeclared (name, value) =
          .textElement known.localName known.ns value.text) ∨
      (s.offers name = false ∧
        entryFragment s.isDeclared (name, value) =
          value.genericFragment name) := by
  rw [entryFragment]
  cases hproperty : (KnownAttribute.lookup? name).filter
      fun known => s.isDeclared known.ns with
  | some known =>
      obtain ⟨hlookup, hdeclared⟩ := Option.filter_eq_some_iff.mp hproperty
      obtain ⟨hmem, hname⟩ := KnownAttribute.lookup?_eq_some_iff.mp hlookup
      exact Or.inl ⟨known, hmem, hname, hdeclared, rfl⟩
  | none =>
      have hother := isSome_lookup?_filter s name
      rw [hproperty, Option.isSome_none] at hother
      exact Or.inr ⟨hother.symm, rfl⟩

theorem isWritten_entryFragment (entry : String × AttributeValue) :
    AttributeValue.IsWritten s entry
      ((entryFragment s.isDeclared entry).toNode s) := by
  obtain ⟨name, value⟩ := entry
  obtain ⟨known, hknown, hname, hdeclared, heq⟩ | ⟨hother, heq⟩ :=
    entryFragment_cases s name value
  · rw [heq]
    exact .property hknown hname hdeclared value.isSpelled_text
  · rw [heq]
    exact .wrapper hother value.isSpelled_text

theorem attribute?_entryFragment (entry : String × AttributeValue) :
    ((entryFragment s.isDeclared entry).toNode s).attribute? =
      some (entry.1, entry.2.text) := by
  obtain ⟨name, value⟩ := entry
  obtain ⟨known, hknown, hname, hdeclared, heq⟩ | ⟨hother, heq⟩ :=
    entryFragment_cases s name value
  · rw [heq, ← hname]
    exact Node.attribute?_property hknown value.text
  · rw [heq]
    exact Node.attribute?_wrapper value name value.text

end Attributes

/-! ## Reading what is written -/

namespace Builder

/-- Attributes are neither lost nor repeated nor reordered.  On every open
builder the elements that are added give back, in this order, the name and the
text of each attribute that is to be written, and read by its kind this text is
the value again; each is the property of its name where that is offered, and a
wrapper that tells the kind of the value where it is not. -/
theorem addAttributes_readBack (s : Settings) (attributes : Attributes)
    (generic : Bool) :
    ∃ nodes,
      Adds (addAttributes attributes generic) s () nodes [] ∧
      nodes.map Node.attribute? =
        (attributes.shown s generic).map
          (fun entry => some (entry.1, entry.2.text)) ∧
      List.Forall₂ (fun entry node =>
          Node.entry? entry.2.kind node = some (entry.1, entry.2.normal))
        (attributes.shown s generic) nodes ∧
      nodes.map Node.wrappedKind? =
        (attributes.shown s generic).map
          (fun entry =>
            if s.offers entry.1 then none else some entry.2.kind) ∧
      List.Forall₂ (AttributeValue.IsWritten s) (attributes.shown s generic)
        nodes ∧
      attributes.entries.Pairwise fun a b =>
        Utf8.encode a.1.toList < Utf8.encode b.1.toList := by
  have hnodes : List.Forall₂ (fun entry node =>
        AttributeValue.IsWritten s entry node ∧
          node.attribute? = some (entry.1, entry.2.text))
      (attributes.shown s generic)
      (Fragment.toNodes s (attributes.fragments s.isDeclared generic)) := by
    rw [Attributes.fragments_eq_map_shown]
    exact Fragment.forall₂_toNodes_map s fun entry _ =>
      ⟨Attributes.isWritten_entryFragment s entry,
        Attributes.attribute?_entryFragment s entry⟩
  refine ⟨_, adds_addAttributes s attributes generic, ?_, ?_, ?_, ?_, ?_⟩
  · rw [map_eq_map_iff_forall₂]
    exact hnodes.flip.imp fun _ _ h => h.2
  · exact hnodes.imp fun _ _ h => h.1.entry?_eq
  · rw [map_eq_map_iff_forall₂]
    exact hnodes.flip.imp fun _ _ h => h.1.wrappedKind?_eq
  · exact hnodes.imp fun _ _ h => h.1
  · apply attributes.ascending.imp
    intro a b h
    exact Utf8.encode_lt_encode h

end Builder

end CityMarkup
