/-!
# Feature types

The kinds of city objects, each with the name of its element.
-/

namespace CityMarkup

/-- The kind of a city object. -/
inductive FeatureType where
  | building
  | room
  | buildingInstallation
  | buildingFurniture
  | door
  | window
  | buildingPart
  | wallSurface
  | roofSurface
  | groundSurface
  | closureSurface
  | floorSurface
  | interiorWallSurface
  | ceilingSurface
  | outerCeilingSurface
  | outerFloorSurface
  | intBuildingInstallation
  | cityFurniture
  | track
  | road
  | railway
  | square
  | transportationObject
  | plantCover
  | solitaryVegetationObject
  | waterBody
  | landUse
  | tunnel
  | bridge
  | bridgeConstructionElement
  | bridgeInstallation
  | bridgePart
  | cityObjectGroup
  | reliefFeature
  | reliefComponent
  | tinRelief
  | massPointRelief
  | breaklineRelief
  | rasterRelief
  | genericCityObject
deriving DecidableEq, Repr

namespace FeatureType

/-- All feature types. -/
def all : List FeatureType :=
  [building, room, buildingInstallation, buildingFurniture, door, window,
    buildingPart, wallSurface, roofSurface, groundSurface, closureSurface,
    floorSurface, interiorWallSurface, ceilingSurface, outerCeilingSurface,
    outerFloorSurface, intBuildingInstallation, cityFurniture, track, road,
    railway, square, transportationObject, plantCover,
    solitaryVegetationObject, waterBody, landUse, tunnel, bridge,
    bridgeConstructionElement, bridgeInstallation, bridgePart,
    cityObjectGroup, reliefFeature, reliefComponent, tinRelief,
    massPointRelief, breaklineRelief, rasterRelief, genericCityObject]

/-- Local name of the element for an object of this type. -/
def elementName : FeatureType → String
  | building => "Building"
  | room => "Room"
  | buildingInstallation => "BuildingInstallation"
  | buildingFurniture => "BuildingFurniture"
  | door => "Door"
  | window => "Window"
  | buildingPart => "BuildingPart"
  | wallSurface => "WallSurface"
  | roofSurface => "RoofSurface"
  | groundSurface => "GroundSurface"
  | closureSurface => "ClosureSurface"
  | floorSurface => "FloorSurface"
  | interiorWallSurface => "InteriorWallSurface"
  | ceilingSurface => "CeilingSurface"
  | outerCeilingSurface => "OuterCeilingSurface"
  | outerFloorSurface => "OuterFloorSurface"
  | intBuildingInstallation => "IntBuildingInstallation"
  | cityFurniture => "CityFurniture"
  | track => "Track"
  | road => "Road"
  | railway => "Railway"
  | square => "Square"
  | transportationObject => "TransportationObject"
  | plantCover => "PlantCover"
  | solitaryVegetationObject => "SolitaryVegetationObject"
  | waterBody => "WaterBody"
  | landUse => "LandUse"
  | tunnel => "Tunnel"
  | bridge => "Bridge"
  | bridgeConstructionElement => "BridgeConstructionElement"
  | bridgeInstallation => "BridgeInstallation"
  | bridgePart => "BridgePart"
  | cityObjectGroup => "CityObjectGroup"
  | reliefFeature => "ReliefFeature"
  | reliefComponent => "ReliefComponent"
  | tinRelief => "TINRelief"
  | massPointRelief => "MassPointRelief"
  | breaklineRelief => "BreaklineRelief"
  | rasterRelief => "RasterRelief"
  | genericCityObject => "GenericCityObject"

/-- The feature type with a given element name. -/
def ofElementName? (name : String) : Option FeatureType :=
  all.find? fun t => t.elementName == name

theorem mem_all (t : FeatureType) : t ∈ all := by
  cases t <;> decide

end FeatureType

end CityMarkup
