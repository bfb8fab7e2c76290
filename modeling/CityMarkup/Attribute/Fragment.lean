import CityMarkup.Document.Fragment
import CityMarkup.Attribute.Basic

/-!
# Written attributes

Some attribute names belong to a property of a schema.  Such an attribute is
written as that property where the namespace of the property is declared.  All
others become generic attributes, which carry their name along.
-/

namespace CityMarkup

/-- An attribute name with the property that it stands for. -/
structure KnownAttribute where
  name : String
  ns : Namespace
  localName : String
deriving DecidableEq, Repr

namespace KnownAttribute

/-- The properties of one namespace, each named like its attribute. -/
def inNamespace (ns : Namespace) (names : List String) :
    List KnownAttribute :=
  names.map fun name => ⟨name, ns, name⟩

/-- All known attributes. -/
def all : List KnownAttribute :=
  inNamespace .gml ["name", "description"] ++
    inNamespace .core ["creationDate", "terminationDate"] ++
    inNamespace .building
      ["class", "function", "usage", "yearOfConstruction",
        "yearOfDemolition", "roofType", "measuredHeight",
        "storeysAboveGround", "storeysBelowGround",
        "storeyHeightsAboveGround", "storeyHeightsBelowGround"] ++
    inNamespace .vegetation
      ["species", "height", "trunkDiameter", "crownDiameter"] ++
    inNamespace .transportation ["surfaceMaterial"]

/-- The known attribute with a given name. -/
def lookup? (name : String) : Option KnownAttribute :=
  all.find? fun known => known.name == name

end KnownAttribute

/-- The element for a generic attribute. -/
def AttributeValue.genericFragment (name : String) (value : AttributeValue) :
    Fragment :=
  .element value.genericName .generics [("name", name)]
    [.textElement "value" .generics value.text]

namespace Attributes

/-- The elements for one attribute: its property if that is known and its
namespace is declared, or else a generic attribute if these are wanted. -/
def entryFragments (declared : Namespace → Bool) (generic : Bool)
    (entry : String × AttributeValue) : List Fragment :=
  let property? := (KnownAttribute.lookup? entry.1).filter fun known =>
    declared known.ns
  match property? with
  | some known => [.textElement known.localName known.ns entry.2.text]
  | none => if generic then [entry.2.genericFragment entry.1] else []

/-- The elements for some attributes, in the order of their names. -/
def fragments (attributes : Attributes) (declared : Namespace → Bool)
    (generic : Bool) : List Fragment :=
  attributes.entries.flatMap (entryFragments declared generic)

end Attributes

end CityMarkup
