import CityMarkup.Proofs.Encoding.Recovery
import CityMarkup.Proofs.Markup.Spacing

/-!
# Layouts and content

No encoder puts text next to an element.  The document of a model is therefore
layered, and its layout does not matter for what is read from its text.
-/

namespace CityMarkup

open Markup

/-! ## Layered fragments -/

namespace Fragment

/-- Whether every element of a fragment holds either one piece of text or
elements only. -/
inductive Layered : Fragment → Prop where
  | leaf (name : String) (ns : Namespace)
      (attributes : List (String × String)) (value : String) :
      Layered (.element name ns attributes [.text value])
  | inner (name : String) (ns : Namespace)
      (attributes : List (String × String)) {content : List Fragment}
      (h : ∀ fragment ∈ content, Layered fragment) :
      Layered (.element name ns attributes content)

/-- Whether all of some fragments are layered. -/
def AllLayered (fragments : List Fragment) : Prop :=
  ∀ fragment ∈ fragments, fragment.Layered

theorem Layered.toNode (s : Settings) {fragment : Fragment}
    (h : fragment.Layered) : (fragment.toNode s).Layered := by
  induction h with
  | leaf name ns attributes value =>
      rw [Fragment.toNode, toNodes, toNodes, Fragment.toNode]
      exact .leaf _ _ value
  | inner name ns attributes _ ih =>
      rw [Fragment.toNode, toNodes_eq_map]
      exact .inner _ _ (List.forall_mem_map.mpr ih)

@[simp]
theorem layered_leaf (name : String) (ns : Namespace)
    (attributes : List (String × String)) (value : String) :
    Layered (.element name ns attributes [.text value]) :=
  .leaf name ns attributes value

@[simp]
theorem layered_inner {content : List Fragment} (h : AllLayered content)
    (name : String) (ns : Namespace) (attributes : List (String × String)) :
    Layered (.element name ns attributes content) :=
  .inner name ns attributes h

@[simp]
theorem layered_wrap {content : List Fragment} (h : AllLayered content)
    (name : String) (ns : Namespace) : Layered (.wrap name ns content) :=
  .inner name ns [] h

@[simp]
theorem layered_textElement (name : String) (ns : Namespace)
    (value : String) : Layered (.textElement name ns value) :=
  .leaf name ns [] value

@[simp]
theorem allLayered_nil : AllLayered [] :=
  List.forall_mem_nil _

@[simp]
theorem allLayered_cons {first : Fragment} {rest : List Fragment} :
    AllLayered (first :: rest) ↔ first.Layered ∧ AllLayered rest :=
  List.forall_mem_cons

@[simp]
theorem allLayered_append {first second : List Fragment} :
    AllLayered (first ++ second) ↔ AllLayered first ∧ AllLayered second :=
  List.forall_mem_append

@[simp]
theorem allLayered_map {α : Type} {f : α → Fragment} {l : List α} :
    AllLayered (l.map f) ↔ ∀ a ∈ l, (f a).Layered :=
  List.forall_mem_map

@[simp]
theorem allLayered_flatMap {α : Type} {f : α → List Fragment} {l : List α} :
    AllLayered (l.flatMap f) ↔ ∀ a ∈ l, AllLayered (f a) :=
  List.forall_mem_flatMap

@[simp]
theorem allLayered_ite {condition : Prop} [Decidable condition]
    {first second : List Fragment} (hfirst : AllLayered first)
    (hsecond : AllLayered second) :
    AllLayered (if condition then first else second) := by
  split
  · exact hfirst
  · exact hsecond

@[simp]
theorem allLayered_optionalText (name : String) (ns : Namespace)
    (value : String) : AllLayered (optionalText name ns value) := by
  simp [optionalText]

end Fragment

open Fragment

/-! ## Geometries -/

@[simp]
theorem Position.allLayered_listFragments (vertices : List Position) :
    AllLayered (Position.listFragments vertices) := by
  simp [listFragments]

@[simp]
theorem Ring.layered_fragment (r : Ring) : r.fragment.Layered := by
  simp [fragment]

theorem Polygon.layered_fragment (p : Polygon) : p.fragment.Layered := by
  apply layered_inner
  simp

@[simp]
theorem Envelope.layered_fragment (e : Envelope) : e.fragment.Layered := by
  simp [fragment]

namespace Geometry

theorem allLayered_enclose {content : List Fragment}
    (h : AllLayered content) (kind : GeometryKind) :
    AllLayered (enclose kind content) := by
  simp [enclose, h]

mutual

theorem layered_fragment : ∀ g : Geometry, g.fragment.Layered
  | ⟨id, _, role, polygons, lines, children, _⟩ => by
    rw [fragment]
    apply layered_inner
    apply allLayered_enclose
    simp [Polygon.layered_fragment, Line.fragment,
      allLayered_fragments children]

theorem allLayered_fragments :
    ∀ gs : List Geometry, AllLayered (fragments gs)
  | [] => by
    rw [fragments]
    exact allLayered_nil
  | g :: rest => by
    rw [fragments, allLayered_cons]
    exact ⟨layered_fragment g, allLayered_fragments rest⟩

end

theorem allLayered_placedFragments (o : Options) (type : FeatureType)
    (g : Geometry) : AllLayered (g.placedFragments o type) := by
  rw [placedFragments]
  split <;> simp [layered_fragment]

end Geometry

/-! ## Attributes, appearances, addresses and references -/

theorem Attributes.allLayered_fragments (attributes : Attributes)
    (declared : Namespace → Bool) (generic : Bool) :
    AllLayered (attributes.fragments declared generic) := by
  rw [fragments, allLayered_flatMap]
  intro entry _
  rw [entryFragments]
  split <;> simp [AttributeValue.genericFragment]

theorem Material.layered_fragment (m : Material) : m.fragment.Layered := by
  simp [fragment, colorFragments, scalarFragments]

theorem MaterialBinding.layered_fragment (b : MaterialBinding) :
    b.fragment.Layered := by
  simp [fragment, Material.layered_fragment]

theorem Texture.allLayered_fragments (t : Texture) :
    AllLayered t.fragments := by
  simp [fragments]

theorem TextureBinding.layered_fragment (b : TextureBinding) :
    b.fragment.Layered := by
  have hcoordinates : AllLayered b.coordinateFragments := by
    simp [coordinateFragments, RingCoordinates.fragment]
  apply layered_wrap
  simp [b.texture.allLayered_fragments, hcoordinates]

theorem ThemedAppearances.allLayered_fragments (t : ThemedAppearances) :
    AllLayered t.fragments := by
  have htheme : ∀ theme, (t.themeFragment theme).Layered := by
    intro theme
    apply layered_wrap
    simp [MaterialBinding.layered_fragment, TextureBinding.layered_fragment]
  simp [fragments, htheme]

theorem Address.layered_localityFragment (a : Address) (locality : String) :
    (a.localityFragment locality).Layered := by
  have hstreet : AllLayered a.thoroughfareFragments := by
    simp [thoroughfareFragments]
  have hcode : AllLayered a.postalCodeFragments := by
    simp [postalCodeFragments]
  simp [localityFragment, hstreet, hcode]

theorem Address.layered_fragment (a : Address) : a.fragment.Layered := by
  have hcountry : ∀ country, (a.countryFragment country).Layered := by
    intro country
    simp [countryFragment, a.layered_localityFragment]
  apply layered_wrap
  simp [hcountry]

theorem ExternalReference.layered_fragment (r : ExternalReference) :
    r.fragment.Layered := by
  have hobject : ∀ object : ExternalObject, AllLayered object.fragments := by
    intro object
    cases object <;> simp [ExternalObject.fragments]
  have hrecord : AllLayered r.objectFragments := by
    simp only [objectFragments]
    exact allLayered_ite allLayered_nil (by simp [hobject])
  simp [fragment, hrecord]

theorem GridCoverage.layered_fragment (c : GridCoverage) :
    c.fragment.Layered := by
  simp [fragment]

/-! ## Objects -/

namespace CityObject

variable (declared : Namespace → Bool) (o : Options)

theorem allLayered_addressFragments (address : Option Address) :
    AllLayered (addressFragments o address) := by
  simp [addressFragments, Address.layered_fragment]

theorem allLayered_referenceFragments (reference : Option ExternalReference)
    (coverage : Option GridCoverage) :
    AllLayered (referenceFragments o reference coverage) := by
  simp [referenceFragments, ExternalReference.layered_fragment,
    GridCoverage.layered_fragment]

mutual

/-- The element of an object is layered at every depth. -/
theorem layered_fragment :
    ∀ (isRoot : Bool) (object : CityObject),
      (object.fragment declared o isRoot).Layered
  | isRoot, ⟨id, type, attributes, geometries, children, address, reference,
      coverage⟩ => by
    rw [fragment]
    apply layered_inner
    simp only [allLayered_append, allLayered_flatMap]
    refine ⟨⟨⟨⟨⟨?_, ?_⟩, ?_⟩, ?_⟩, ?_⟩, ?_⟩
    · exact attributes.allLayered_fragments declared o.genericAttributes
    · exact ThemedAppearances.allLayered_fragments _
    · exact fun g _ => g.allLayered_placedFragments o type
    · exact allLayered_childFragments children
    · exact allLayered_addressFragments o address
    · exact allLayered_referenceFragments o reference coverage

theorem allLayered_childFragments :
    ∀ children : List CityObject,
      AllLayered (childFragments declared o children)
  | [] => by
    rw [childFragments]
    exact allLayered_nil
  | child :: rest => by
    rw [childFragments, allLayered_cons]
    refine ⟨layered_wrap ?_ "boundedBy" .building,
      allLayered_childFragments rest⟩
    rw [allLayered_cons]
    exact ⟨layered_fragment false child, allLayered_nil⟩

end

end CityObject

/-! ## Models -/

namespace CityModel

theorem allLayered_fragments (declared : Namespace → Bool) (o : Options)
    (m : CityModel) : AllLayered (m.fragments declared o) := by
  have hmember : ∀ object : CityObject,
      (memberFragment declared o object).Layered := by
    intro object
    simp [memberFragment, object.layered_fragment]
  simp [fragments, Attributes.allLayered_fragments, hmember]

theorem layered_encodedRoot (o : Options) (m : CityModel) :
    (m.encodedRoot o).toNode.Layered := by
  have hcontent := m.allLayered_fragments (m.settings o).isDeclared o
  rw [encodedRoot, documentElement, OpenElement.toNode,
    Fragment.toNodes_eq_map]
  refine .inner _ _ (List.forall_mem_map.mpr ?_)
  exact fun fragment hmem => (hcontent fragment hmem).toNode (m.settings o)

/-- The options for the layout leave the tree alone. -/
theorem toText_layout {o : Options} (h : o.validate = .ok ()) (m : CityModel)
    (prettyPrint : Bool) (width : Nat) (optimizeForSize : Bool) :
    (m.toText { o with
        prettyPrint, indentSize := width, optimizeForSize }).result =
      .ok (String.ofList (renderDocument
        (if prettyPrint && !optimizeForSize then .indented width else .compact)
        o.encoding (m.encodedRoot o).toNode)) := by
  let p : Options :=
    { o with prettyPrint, indentSize := width, optimizeForSize }
  have hcontent : p.SameContent o := ⟨rfl, rfl, rfl, rfl, rfl⟩
  have hvalid : p.validate = .ok () := h
  rw [run_toText hvalid m, document_eq, m.encodedRoot_congr hcontent]
  rfl

/-- What is read from the document on one line is the encoded tree without its
empty text.  The same is read from the document with line breaks of any
indentation, once the blank text next to elements is dropped.  A small document
is the one on one line, whatever else is asked for. -/
theorem toText_layouts (o : Options) (m : CityModel)
    (h : o.validate = .ok ()) :
    ∃ (compact : String) (tree : Node),
      (m.toText { o with prettyPrint := false }).result = .ok compact ∧
      Reader.nodes? compact.toList = some [tree] ∧
      tree = (m.encodedRoot o).toNode.visible ∧
      (∀ width, ∃ pretty : String,
        (m.toText { o with
          prettyPrint := true
          indentSize := width
          optimizeForSize := false }).result = .ok pretty ∧
        (Reader.nodes? pretty.toList).map Node.unspacedAll = some [tree]) ∧
      ∀ (prettyPrint : Bool) (width : Nat),
        (m.toText { o with
          prettyPrint
          indentSize := width
          optimizeForSize := true }).result = .ok compact := by
  have hencoding := o.greater_notMem_encoding h
  have hplain := m.isPlain_encodedRoot o
  have hlayered := m.layered_encodedRoot o
  let root := (m.encodedRoot o).toNode
  refine ⟨String.ofList (renderDocument .compact o.encoding root),
    root.visible, ?_, ?_, rfl, ?_, ?_⟩
  · exact toText_layout h m false o.indentSize o.optimizeForSize
  · rw [String.toList_ofList]
    exact Reader.nodes?_compact hencoding hplain hlayered
  · intro width
    refine ⟨String.ofList (renderDocument (.indented width) o.encoding root),
      toText_layout h m true width false, ?_⟩
    rw [String.toList_ofList]
    exact Reader.nodes?_unspaced _ hencoding hplain hlayered
  · intro prettyPrint width
    have hsmall := toText_layout h m prettyPrint width true
    rw [Bool.not_true, Bool.and_false, if_neg Bool.false_ne_true] at hsmall
    exact hsmall

theorem toText_layouts_park :
    ∃ (pretty : String) (tree : Node),
      (park.toText .standard).result = .ok pretty ∧
        (Reader.nodes? pretty.toList).map Node.unspacedAll = some [tree] ∧
        tree = (park.encodedRoot .standard).toNode.visible := by
  obtain ⟨compact, tree, -, -, htree, hspaced, -⟩ :=
    toText_layouts .standard park Options.validate_standard
  obtain ⟨pretty, hpretty, hread⟩ := hspaced 2
  exact ⟨pretty, tree, hpretty, hread, htree⟩

end CityModel

end CityMarkup
