import CityMarkup.Appearance.Themed
import CityMarkup.Attribute.Fragment
import CityMarkup.CityObject.Address
import CityMarkup.CityObject.Placement

/-!
# Written city objects

An object is written with its attributes, its appearances if it is a root, its
geometries, the objects below it, its address, and its references, in this
order.
-/

namespace CityMarkup

namespace ExternalObject

/-- The element for the record that a reference leads to, if it is named. -/
def fragments : ExternalObject → List Fragment
  | name text => Fragment.optionalText "name" .core text
  | uri text => Fragment.optionalText "uri" .core text

end ExternalObject

namespace ExternalReference

/-- The element that encloses a record, if there is one to enclose. -/
def objectFragments (r : ExternalReference) : List Fragment :=
  let content := r.object.toList.flatMap ExternalObject.fragments
  if content.isEmpty then [] else [.wrap "externalObject" .core content]

/-- The element for an external reference. -/
def fragment (r : ExternalReference) : Fragment :=
  .element "ExternalReference" .core (Fragment.identity r.id)
    (Fragment.optionalText "informationSystem" .core r.informationSystem ++
      r.objectFragments)

end ExternalReference

/-- The element for a coverage, with its envelope unless that is undefined or
zero. -/
def GridCoverage.fragment (c : GridCoverage) : Fragment :=
  .element "RectifiedGridCoverage" .core (Fragment.identity c.id)
    (if c.envelope.isDefined && !c.envelope.isZero then
      [c.envelope.fragment]
    else
      [])

namespace CityObject

/-- The bindings that are written with an object: all that are found in it if
it is a root, and none otherwise. -/
def shownAppearances (o : Options) (isRoot : Bool) (object : CityObject) :
    ThemedAppearances :=
  if isRoot && o.appearances then .collect object else .empty

/-- The element for an address, if it is wanted. -/
def addressFragments (o : Options) (address : Option Address) :
    List Fragment :=
  if o.addresses then
    address.toList.map fun a => .wrap "address" .building [a.fragment]
  else
    []

/-- The elements for the references of an object, if they are wanted. -/
def referenceFragments (o : Options) (reference : Option ExternalReference)
    (coverage : Option GridCoverage) : List Fragment :=
  if o.externalReferences then
    reference.toList.map ExternalReference.fragment ++
      coverage.toList.map GridCoverage.fragment
  else
    []

mutual

/-- The element for an object and everything below it. -/
def fragment (declared : Namespace → Bool) (o : Options) (isRoot : Bool) :
    CityObject → Fragment
  | object@⟨id, type, attributes, geometries, children, address, reference,
      coverage⟩ =>
    .element type.elementName type.thematicModule (Fragment.identity id)
      (Attributes.fragments attributes declared o.genericAttributes ++
        (shownAppearances o isRoot object).fragments ++
        geometries.flatMap (Geometry.placedFragments o type) ++
        childFragments declared o children ++
        addressFragments o address ++
        referenceFragments o reference coverage)

/-- The elements for the objects below an object. -/
def childFragments (declared : Namespace → Bool) (o : Options) :
    List CityObject → List Fragment
  | [] => []
  | child :: rest =>
    .wrap "boundedBy" .building [child.fragment declared o false] ::
      childFragments declared o rest

end

mutual

/-- The notices for an object and everything below it. -/
def notices (o : Options) (isRoot : Bool) : CityObject → List Notice
  | object@⟨id, type, _, geometries, children, _, _, _⟩ =>
    (shownAppearances o isRoot object).notices ++
      geometries.flatMap (Geometry.placementNotices o type id) ++
      childNotices o children

/-- The notices for the objects below an object. -/
def childNotices (o : Options) : List CityObject → List Notice
  | [] => []
  | child :: rest => child.notices o false ++ childNotices o rest

end

end CityObject

end CityMarkup
