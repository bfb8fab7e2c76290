import CityMarkup.CityObject.FeatureType

/-!
# Namespaces

The namespaces of a city document, in a fixed order: each with its prefix, its
identifier, and the place of its schema where it is a thematic module.  The
last of them is the default namespace, which has no prefix.
-/

namespace CityMarkup

/-- A namespace of a city document. -/
inductive Namespace where
  | gml
  | building
  | core
  | cityFurniture
  | transportation
  | vegetation
  | waterBody
  | landUse
  | tunnel
  | bridge
  | cityObjectGroup
  | relief
  | generics
  | appearance
  | xal
  | xsi
  | xlink
  | cityGml
deriving DecidableEq, Repr

namespace Namespace

/-- All namespaces in their order. -/
def all : List Namespace :=
  [gml, building, core, cityFurniture, transportation, vegetation, waterBody,
    landUse, tunnel, bridge, cityObjectGroup, relief, generics, appearance,
    xal, xsi, xlink, cityGml]

/-- The name under which messages list a namespace. -/
def label : Namespace → String
  | gml => "Gml"
  | building => "Building"
  | core => "Core"
  | cityFurniture => "CityFurniture"
  | transportation => "Transportation"
  | vegetation => "Vegetation"
  | waterBody => "WaterBody"
  | landUse => "LandUse"
  | tunnel => "Tunnel"
  | bridge => "Bridge"
  | cityObjectGroup => "CityObjectGroup"
  | relief => "Relief"
  | generics => "Generics"
  | appearance => "Appearance"
  | xal => "Xal"
  | xsi => "Xsi"
  | xlink => "Xlink"
  | cityGml => "CityGml"

/-- The namespace with a given label. -/
def ofLabel? (name : String) : Option Namespace :=
  all.find? fun ns => ns.label == name

/-- The prefix of element names; the default namespace has none. -/
def abbreviation : Namespace → Option String
  | gml => some "gml"
  | building => some "bldg"
  | core => some "core"
  | cityFurniture => some "frn"
  | transportation => some "trans"
  | vegetation => some "veg"
  | waterBody => some "wtr"
  | landUse => some "luse"
  | tunnel => some "sub"
  | bridge => some "brid"
  | cityObjectGroup => some "grp"
  | relief => some "dem"
  | generics => some "gen"
  | appearance => some "app"
  | xal => some "xAL"
  | xsi => some "xsi"
  | xlink => some "xlink"
  | cityGml => none

/-- The identifier of a namespace.  The core module and the default namespace
share theirs. -/
def uri : Namespace → String
  | gml => "http://www.opengis.net/gml"
  | building => "http://www.opengis.net/citygml/building/2.0"
  | core => "http://www.opengis.net/citygml/2.0"
  | cityFurniture => "http://www.opengis.net/citygml/cityfurniture/2.0"
  | transportation => "http://www.opengis.net/citygml/transportation/2.0"
  | vegetation => "http://www.opengis.net/citygml/vegetation/2.0"
  | waterBody => "http://www.opengis.net/citygml/waterbody/2.0"
  | landUse => "http://www.opengis.net/citygml/landuse/2.0"
  | tunnel => "http://www.opengis.net/citygml/tunnel/2.0"
  | bridge => "http://www.opengis.net/citygml/bridge/2.0"
  | cityObjectGroup => "http://www.opengis.net/citygml/cityobjectgroup/2.0"
  | relief => "http://www.opengis.net/citygml/relief/2.0"
  | generics => "http://www.opengis.net/citygml/generics/2.0"
  | appearance => "http://www.opengis.net/citygml/appearance/2.0"
  | xal => "urn:oasis:names:tc:ciq:xsdschema:xAL:2.0"
  | xsi => "http://www.w3.org/2001/XMLSchema-instance"
  | xlink => "http://www.w3.org/1999/xlink"
  | cityGml => "http://www.opengis.net/citygml/2.0"

/-- Where the schema of a thematic module is published. -/
def schemaLocation : Namespace → Option String
  | building =>
    some "http://schemas.opengis.net/citygml/building/2.0/building.xsd"
  | cityFurniture =>
    some
      "http://schemas.opengis.net/citygml/cityfurniture/2.0/cityFurniture.xsd"
  | transportation =>
    some
      "http://schemas.opengis.net/citygml/transportation/2.0/transportation.xsd"
  | vegetation =>
    some "http://schemas.opengis.net/citygml/vegetation/2.0/vegetation.xsd"
  | waterBody =>
    some "http://schemas.opengis.net/citygml/waterbody/2.0/waterBody.xsd"
  | landUse =>
    some "http://schemas.opengis.net/citygml/landuse/2.0/landUse.xsd"
  | tunnel => some "http://schemas.opengis.net/citygml/tunnel/2.0/tunnel.xsd"
  | bridge => some "http://schemas.opengis.net/citygml/bridge/2.0/bridge.xsd"
  | cityObjectGroup =>
    some
      "http://schemas.opengis.net/citygml/cityobjectgroup/2.0/cityObjectGroup.xsd"
  | relief => some "http://schemas.opengis.net/citygml/relief/2.0/relief.xsd"
  | generics =>
    some "http://schemas.opengis.net/citygml/generics/2.0/generics.xsd"
  | appearance =>
    some "http://schemas.opengis.net/citygml/appearance/2.0/appearance.xsd"
  | gml | core | xal | xsi | xlink | cityGml => none

theorem mem_all (ns : Namespace) : ns ∈ all := by
  cases ns <;> decide

theorem nodup_all : all.Nodup := by
  decide

end Namespace

/-- The thematic module that a feature type belongs to. -/
def FeatureType.thematicModule : FeatureType → Namespace
  | .building | .room | .buildingInstallation | .buildingFurniture | .door
  | .window | .buildingPart | .wallSurface | .roofSurface | .groundSurface
  | .closureSurface | .floorSurface | .interiorWallSurface | .ceilingSurface
  | .outerCeilingSurface | .outerFloorSurface | .intBuildingInstallation =>
    .building
  | .cityFurniture => .cityFurniture
  | .track | .road | .railway | .square | .transportationObject =>
    .transportation
  | .plantCover | .solitaryVegetationObject => .vegetation
  | .waterBody => .waterBody
  | .landUse => .landUse
  | .tunnel => .tunnel
  | .bridge | .bridgeConstructionElement | .bridgeInstallation
  | .bridgePart => .bridge
  | .cityObjectGroup => .cityObjectGroup
  | .reliefFeature | .reliefComponent | .tinRelief | .massPointRelief
  | .breaklineRelief | .rasterRelief => .relief
  | .genericCityObject => .generics

/-- A set of namespaces, listed in their order without repetition. -/
structure NamespaceSet where
  members : List Namespace
  ordered : members.Sublist Namespace.all
deriving DecidableEq, Repr

namespace NamespaceSet

/-- The namespaces with a property. -/
def ofPredicate (p : Namespace → Bool) : NamespaceSet :=
  ⟨Namespace.all.filter p, List.filter_sublist⟩

/-- The set without members. -/
def empty : NamespaceSet :=
  ⟨[], List.nil_sublist _⟩

instance : Inhabited NamespaceSet := ⟨empty⟩

/-- Whether a namespace belongs to a set. -/
def contains (s : NamespaceSet) (ns : Namespace) : Bool :=
  s.members.contains ns

/-- Adds a namespace to a set. -/
def insert (s : NamespaceSet) (ns : Namespace) : NamespaceSet :=
  ofPredicate fun other => other == ns || s.contains other

/-- The set of the namespaces of a list. -/
def ofList (l : List Namespace) : NamespaceSet :=
  l.foldl insert empty

@[simp]
theorem contains_ofPredicate (p : Namespace → Bool) (ns : Namespace) :
    (ofPredicate p).contains ns = p ns := by
  cases h : p ns <;>
    simp [contains, ofPredicate, List.mem_filter, Namespace.mem_all, h]

@[simp]
theorem contains_empty (ns : Namespace) : empty.contains ns = false := rfl

@[simp]
theorem contains_insert (s : NamespaceSet) (added ns : Namespace) :
    (s.insert added).contains ns = (ns == added || s.contains ns) := by
  simp [insert]

end NamespaceSet

end CityMarkup
