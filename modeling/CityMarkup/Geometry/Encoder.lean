import CityMarkup.Geometry.Fragment

/-!
# Writing geometries

A geometry is written step by step: its element is opened, its polygons, lines
and nested geometries are written into it, and it is closed again.
-/

namespace CityMarkup

namespace Builder

/-- Writes a list of positions; nothing is written without positions. -/
def addPositions (vertices : List Position) : Action Builder Unit :=
  .when (!vertices.isEmpty) do
    startElement "posList" .gml
    writeAttribute "srsDimension" "3"
    writeText (Position.listText vertices)
    endElement

/-- Writes a ring. -/
def addRing (r : Ring) : Action Builder Unit := do
  startElement "LinearRing" .gml
  writeIdentity r.id
  addPositions r.vertices
  endElement

/-- Writes a line. -/
def addLine (l : Line) : Action Builder Unit := do
  startElement "LineString" .gml
  writeIdentity l.id
  addPositions l.vertices
  endElement

/-- Writes a ring of a polygon inside of an element for its role. -/
def addBoundary (role : String) (r : Ring) : Action Builder Unit := do
  startElement role .gml
  addRing r
  endElement

/-- Writes a polygon: its outer ring and then its holes. -/
def addPolygon (p : Polygon) : Action Builder Unit := do
  startElement "Polygon" .gml
  writeIdentity p.id
  p.exterior.toList.forM (addBoundary "exterior")
  p.interiors.forM (addBoundary "interior")
  endElement

/-- Writes a polygon as a member of a surface. -/
def addSurfaceMember (p : Polygon) : Action Builder Unit := do
  startElement "surfaceMember" .gml
  addPolygon p
  endElement

mutual

/-- Writes a geometry: polygons, lines, and nested geometries.  The content of
a solid stands in an element of its own. -/
def addGeometry : Geometry → Action Builder Unit
  | ⟨id, _, role, polygons, lines, children, _⟩ => do
    let kind := GeometryKind.infer children.length polygons.length
      lines.length role
    let nested := kind == .solid
    startElement kind.elementName .gml
    writeIdentity id
    .when nested (startElement "exterior" .gml)
    polygons.forM addSurfaceMember
    lines.forM addLine
    addGeometries children
    .when nested endElement
    endElement

/-- Writes some geometries. -/
def addGeometries : List Geometry → Action Builder Unit
  | [] => pure ()
  | g :: rest => do
    addGeometry g
    addGeometries rest

end

/-- Writes an envelope: the lower corner and then the upper one. -/
def addEnvelope (e : Envelope) : Action Builder Unit := do
  let name := e.srsName.getD ""
  startElement "boundedBy" .gml
  startElement "Envelope" .gml
  .when (!name.isEmpty) (writeAttribute "srsName" name)
  writeTextElement "lowerCorner" .gml e.lower.text
  writeTextElement "upperCorner" .gml e.upper.text
  endElement
  endElement

end Builder

end CityMarkup
