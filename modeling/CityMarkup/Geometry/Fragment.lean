import CityMarkup.Document.Fragment
import CityMarkup.Geometry.Kind

/-!
# Written geometries

A geometry is written as an element of its kind that holds its polygons, its
lines and the geometries nested in it.  Positions are written as numbers
separated by spaces.
-/

namespace CityMarkup

namespace Position

/-- The three coordinates, separated by spaces. -/
def text (p : Position) : String :=
  p.x.coordinateText ++ " " ++ p.y.coordinateText ++ " " ++
    p.z.coordinateText

/-- The coordinates of some positions, all separated by spaces. -/
def listText (vertices : List Position) : String :=
  " ".intercalate (vertices.map text)

/-- The element for a list of positions; there is none without positions. -/
def listFragments (vertices : List Position) : List Fragment :=
  if vertices.isEmpty then
    []
  else
    [.element "posList" .gml [("srsDimension", "3")]
      [.text (listText vertices)]]

end Position

/-- The element for a ring. -/
def Ring.fragment (r : Ring) : Fragment :=
  .element "LinearRing" .gml (Fragment.identity r.id)
    (Position.listFragments r.vertices)

/-- The element for a line. -/
def Line.fragment (l : Line) : Fragment :=
  .element "LineString" .gml (Fragment.identity l.id)
    (Position.listFragments l.vertices)

/-- The element for a polygon: its outer ring and then its holes. -/
def Polygon.fragment (p : Polygon) : Fragment :=
  .element "Polygon" .gml (Fragment.identity p.id)
    (p.exterior.toList.map (fun r => .wrap "exterior" .gml [r.fragment]) ++
      p.interiors.map fun r => .wrap "interior" .gml [r.fragment])

namespace Geometry

/-- The content of a geometry in the form that its kind asks for: that of a
solid stands in an element of its own. -/
def enclose (kind : GeometryKind) (content : List Fragment) :
    List Fragment :=
  if kind = .solid then [.wrap "exterior" .gml content] else content

mutual

/-- The element for a geometry: polygons, lines, and nested geometries. -/
def fragment : Geometry → Fragment
  | ⟨id, _, role, polygons, lines, children, _⟩ =>
    let kind := GeometryKind.infer children.length polygons.length
      lines.length role
    .element kind.elementName .gml (Fragment.identity id)
      (enclose kind
        (polygons.map (fun p => .wrap "surfaceMember" .gml [p.fragment]) ++
          lines.map Line.fragment ++ fragments children))

/-- The elements for some geometries. -/
def fragments : List Geometry → List Fragment
  | [] => []
  | g :: rest => g.fragment :: fragments rest

end

theorem fragments_eq_map (gs : List Geometry) :
    fragments gs = gs.map fragment := by
  induction gs with
  | nil => rfl
  | cons g rest ih => simp [fragments, ih]

theorem fragment_eq (g : Geometry) :
    g.fragment =
      .element g.kind.elementName .gml (Fragment.identity g.id)
        (enclose g.kind
          (g.polygons.map (fun p => .wrap "surfaceMember" .gml [p.fragment]) ++
            g.lines.map Line.fragment ++ g.children.map fragment)) := by
  rw [← fragments_eq_map]
  cases g
  rfl

end Geometry

namespace Envelope

/-- The element for an envelope: the lower corner and then the upper one. -/
def fragment (e : Envelope) : Fragment :=
  let name := e.srsName.getD ""
  .wrap "boundedBy" .gml
    [.element "Envelope" .gml
      (if name.isEmpty then [] else [("srsName", name)])
      [.textElement "lowerCorner" .gml e.lower.text,
        .textElement "upperCorner" .gml e.upper.text]]

end Envelope

end CityMarkup
