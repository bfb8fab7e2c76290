import CityMarkup.Proofs.Encoding.Encoded

/-!
# Options that matter for the content

Five options decide what goes into a document.  The others are about its
layout, its encoding and its validation, and leave the element tree alone.
-/

namespace CityMarkup

/-- Options that leave the same things out of a document. -/
structure Options.SameContent (o p : Options) : Prop where
  appearances : o.appearances = p.appearances
  addresses : o.addresses = p.addresses
  externalReferences : o.externalReferences = p.externalReferences
  emptyGeometries : o.emptyGeometries = p.emptyGeometries
  genericAttributes : o.genericAttributes = p.genericAttributes

theorem Options.sameContent_validation (o : Options) (validation : Bool) :
    { o with validation }.SameContent o :=
  ⟨rfl, rfl, rfl, rfl, rfl⟩

namespace Fragment

variable {s t : Settings}

theorem qualify_congr (h : s.namespaces = t.namespaces) (name : String)
    (ns : Namespace) : s.qualify name ns = t.qualify name ns := by
  rw [Settings.qualify, Settings.qualify, Settings.isDeclared,
    Settings.isDeclared, h]

mutual

theorem toNode_congr (h : s.namespaces = t.namespaces) :
    ∀ fragment : Fragment, fragment.toNode s = fragment.toNode t
  | .text value => by
    rw [toNode, toNode]
  | .element name ns attributes content => by
    rw [toNode, toNode, qualify_congr h, toNodes_congr h content]

theorem toNodes_congr (h : s.namespaces = t.namespaces) :
    ∀ fragments : List Fragment, toNodes s fragments = toNodes t fragments
  | [] => by
    rw [toNodes, toNodes]
  | fragment :: rest => by
    rw [toNodes, toNodes, toNode_congr h fragment, toNodes_congr h rest]

end

end Fragment

section SameContent

variable {o p : Options} (h : o.SameContent p)
include h

theorem Geometry.placedFragments_congr (type : FeatureType) (g : Geometry) :
    g.placedFragments o type = g.placedFragments p type := by
  rw [placedFragments, placedFragments, placement, placement,
    h.emptyGeometries]

namespace CityObject

theorem shownAppearances_congr (isRoot : Bool) (object : CityObject) :
    object.shownAppearances o isRoot = object.shownAppearances p isRoot := by
  rw [shownAppearances, shownAppearances, h.appearances]

theorem addressFragments_congr (address : Option Address) :
    addressFragments o address = addressFragments p address := by
  rw [addressFragments, addressFragments, h.addresses]

theorem referenceFragments_congr (reference : Option ExternalReference)
    (coverage : Option GridCoverage) :
    referenceFragments o reference coverage =
      referenceFragments p reference coverage := by
  rw [referenceFragments, referenceFragments, h.externalReferences]

end CityObject

end SameContent

namespace CityObject

variable {o p : Options}

mutual

theorem fragment_congr (h : o.SameContent p) (declared : Namespace → Bool) :
    ∀ (isRoot : Bool) (object : CityObject),
      object.fragment declared o isRoot = object.fragment declared p isRoot
  | isRoot, ⟨id, type, attributes, geometries, children, address, reference,
      coverage⟩ => by
    have hgeometries : Geometry.placedFragments o type =
        Geometry.placedFragments p type := by
      funext g
      exact g.placedFragments_congr h type
    rw [fragment, fragment, shownAppearances_congr h, hgeometries,
      childFragments_congr h declared children, addressFragments_congr h,
      referenceFragments_congr h, h.genericAttributes]

theorem childFragments_congr (h : o.SameContent p)
    (declared : Namespace → Bool) :
    ∀ children : List CityObject,
      childFragments declared o children = childFragments declared p children
  | [] => by
    rw [childFragments, childFragments]
  | child :: rest => by
    rw [childFragments, childFragments, fragment_congr h declared false child,
      childFragments_congr h declared rest]

end

end CityObject

namespace CityModel

theorem fragments_congr {o p : Options} (h : o.SameContent p)
    (declared : Namespace → Bool) (m : CityModel) :
    m.fragments declared o = m.fragments declared p := by
  have hmember : memberFragment declared o = memberFragment declared p := by
    funext object
    rw [memberFragment, memberFragment, object.fragment_congr h]
  rw [fragments, fragments, h.genericAttributes, hmember]

/-- The element tree depends on the options for the content only. -/
theorem encodedRoot_congr {o p : Options} (h : o.SameContent p)
    (m : CityModel) : m.encodedRoot o = m.encodedRoot p := by
  have hnamespaces : (m.settings o).namespaces = (m.settings p).namespaces :=
    rfl
  have hdeclared : (m.settings o).isDeclared = (m.settings p).isDeclared :=
    rfl
  have hattributes : (m.settings o).declarationAttributes =
      (m.settings p).declarationAttributes := rfl
  rw [encodedRoot, encodedRoot, documentElement, documentElement,
    Fragment.qualify_congr hnamespaces, hattributes, hdeclared,
    fragments_congr h, Fragment.toNodes_congr hnamespaces]

end CityModel

end CityMarkup
