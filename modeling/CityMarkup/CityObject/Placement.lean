import CityMarkup.CityObject.FeatureType
import CityMarkup.Geometry.Fragment
import CityMarkup.Options

/-!
# Places for geometries

An object holds its geometries in elements named for their level of detail.
Which of them there are depends on the type of the object.  A geometry that is
empty, or for which there is no place, gives a notice instead.
-/

namespace CityMarkup

/-- Name of the element that holds a geometry of a kind at a level of detail,
if objects of the type have one. -/
def FeatureType.container? (type : FeatureType) (lod : Nat)
    (kind : GeometryKind) : Option String :=
  match type with
  | .building | .buildingPart =>
    match lod, kind with
    | 0, _ => some "lod0FootPrint"
    | 1, .solid => some "lod1Solid"
    | 2, .solid => some "lod2Solid"
    | 3, .solid => some "lod3Solid"
    | 4, .solid => some "lod4Solid"
    | 1, _ => some "lod1MultiSurface"
    | 2, _ => some "lod2MultiSurface"
    | 3, _ => some "lod3MultiSurface"
    | 4, _ => some "lod4MultiSurface"
    | _, _ => none
  | .wallSurface | .roofSurface | .groundSurface | .closureSurface
  | .floorSurface | .interiorWallSurface | .ceilingSurface =>
    match lod with
    | 0 => some "lod0FootPrint"
    | 1 => some "lod1MultiSurface"
    | 2 => some "lod2MultiSurface"
    | 3 => some "lod3MultiSurface"
    | 4 => some "lod4MultiSurface"
    | _ => none
  | _ => none

/-- What becomes of a geometry of an object. -/
inductive Placement where
  | held (container : String)
  | empty
  | noContainer
deriving DecidableEq, Repr

namespace Geometry

/-- What becomes of a geometry of an object of the given type. -/
def placement (g : Geometry) (o : Options) (type : FeatureType) : Placement :=
  if g.isEmpty && !o.emptyGeometries then
    .empty
  else
    match type.container? g.lod g.kind with
    | some name => .held name
    | none => .noContainer

/-- The element for a geometry in its place, if it has one. -/
def placedFragments (o : Options) (type : FeatureType) (g : Geometry) :
    List Fragment :=
  match g.placement o type with
  | .held name => [.wrap name type.thematicModule [g.fragment]]
  | .empty | .noContainer => []

/-- The notice for a geometry without a place. -/
def placementNotices (o : Options) (type : FeatureType) (objectId : String)
    (g : Geometry) : List Notice :=
  match g.placement o type with
  | .held _ => []
  | .empty => [.emptyGeometry g.id objectId]
  | .noContainer => [.noContainer g.lod type g.id objectId]

end Geometry

end CityMarkup
