import CityMarkup.Geometry.Basic

/-!
# Kinds of geometries

The element of a geometry follows from what the geometry contains.  Only a
geometry without any content is written by its declared role.
-/

namespace CityMarkup

/-- The element that stands for a geometry. -/
inductive GeometryKind where
  | solid
  | compositeSurface
  | multiSurface
  | compositeCurve
  | lineString
  | tinRelief
  | placeholder
deriving DecidableEq, Repr

namespace GeometryKind

/-- The local name of the element. -/
def elementName : GeometryKind → String
  | solid => "Solid"
  | compositeSurface => "CompositeSurface"
  | multiSurface => "MultiSurface"
  | compositeCurve => "CompositeCurve"
  | lineString => "LineString"
  | tinRelief => "TINRelief"
  | placeholder => "Geometry"

/-- The kind for a geometry without content. -/
def ofRole (role : GeometryRole) : GeometryKind :=
  if role = .tin then tinRelief
  else if role.isSurface then multiSurface
  else placeholder

/-- The kind for a geometry with so many nested geometries, polygons and
lines.  Nested geometries count before polygons, and these before lines. -/
def infer (children polygons lines : Nat) (role : GeometryRole) :
    GeometryKind :=
  match children, polygons, lines with
  | 0, 0, 0 => ofRole role
  | 0, 0, 1 => lineString
  | 0, 0, _ => compositeCurve
  | 0, 1, _ => multiSurface
  | 0, _, _ => compositeSurface
  | _, _, _ => solid

/-- A solid is what has nested geometries. -/
theorem infer_eq_solid_iff {children polygons lines : Nat}
    {role : GeometryRole} :
    infer children polygons lines role = solid ↔ children ≠ 0 := by
  cases children with
  | succ n => simp [infer]
  | zero =>
      cases polygons with
      | succ n => cases n <;> simp [infer]
      | zero =>
          cases lines with
          | succ n => cases n <;> simp [infer]
          | zero => cases role <;> decide

end GeometryKind

/-- The kind of a geometry. -/
def Geometry.kind (g : Geometry) : GeometryKind :=
  .infer g.children.length g.polygons.length g.lines.length g.role

end CityMarkup
