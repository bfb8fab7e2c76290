import CityMarkup.Appearance.Bindings
import CityMarkup.Geometry.Position

/-!
# Geometries

A geometry is a tree.  Each node has polygons, lines and nested geometries, a
level of detail, and a declared role that tells what it stands for.
-/

namespace CityMarkup

/-- What a geometry was declared to stand for. -/
inductive GeometryRole where
  | unknown
  | roof
  | wall
  | ground
  | closure
  | floor
  | interiorWall
  | ceiling
  | outerCeiling
  | outerFloor
  | tin
deriving DecidableEq, Repr

namespace GeometryRole

/-- All roles. -/
def all : List GeometryRole :=
  [unknown, roof, wall, ground, closure, floor, interiorWall, ceiling,
    outerCeiling, outerFloor, tin]

/-- Whether the role is that of a boundary surface. -/
def isSurface : GeometryRole → Bool
  | unknown => false
  | tin => false
  | _ => true

end GeometryRole

/-- A closed line around an area. -/
structure Ring where
  id : String
  vertices : List Position
deriving DecidableEq, Repr

/-- An open line. -/
structure Line where
  id : String
  vertices : List Position
deriving DecidableEq, Repr

/-- A plane area with holes. -/
structure Polygon where
  id : String
  exterior : Option Ring
  interiors : List Ring
  appearance : Bindings
deriving DecidableEq, Repr

/-- A geometry and everything nested in it. -/
structure Geometry where
  id : String
  lod : Nat
  role : GeometryRole
  polygons : List Polygon
  lines : List Line
  children : List Geometry
  appearance : Bindings
deriving Repr

namespace Geometry

instance : Inhabited Geometry := ⟨⟨"", 0, .unknown, [], [], [], .empty⟩⟩

/-- Whether the geometry has no polygons, no lines and nothing nested. -/
def isEmpty (g : Geometry) : Bool :=
  g.polygons.isEmpty && g.lines.isEmpty && g.children.isEmpty

end Geometry

end CityMarkup
