import CityMarkup.CityModel.Document

/-!
# Writing is inserting fragments

What is written step by step, with an end for each start on every path, is the
insertion of one fragment.  The equations of this file hold between actions,
and hence on every builder, whether it has a document or not.  They follow the
definitions of the encoders one by one and use the laws of sequencing only.
-/

namespace CityMarkup

namespace Builder

/-! ## Insertion and sequencing -/

theorem insertAll_singleton (fragment : Fragment) :
    insertAll [fragment] = insert fragment := by
  rw [insertAll, insertAll]
  exact bind_pure_unit

theorem insertAll_append (first second : List Fragment) :
    insertAll (first ++ second) =
      (do insertAll first; insertAll second) := by
  induction first with
  | nil => simp [insertAll]
  | cons fragment rest ih =>
      rw [List.cons_append, insertAll, ih, insertAll]
      exact (bind_assoc _ _ _).symm

theorem insert_element (name : String) (ns : Namespace)
    (attributes : List (String × String)) (content : List Fragment) :
    insert (.element name ns attributes content) =
      (do
        startElement name ns
        writeAttributes attributes
        insertAll content
        endElement) := by
  rw [insert]

theorem insert_wrap (name : String) (ns : Namespace)
    (content : List Fragment) :
    insert (.wrap name ns content) =
      (do
        startElement name ns
        insertAll content
        endElement) := by
  rw [Fragment.wrap, insert_element]
  simp only [writeAttributes, pure_bind]

theorem insert_textElement (name : String) (ns : Namespace) (value : String) :
    insert (.textElement name ns value) = writeTextElement name ns value := by
  rw [Fragment.textElement, insert_element, insertAll_singleton, insert,
    writeTextElement]
  simp only [writeAttributes, pure_bind]

theorem writeAttributes_singleton (name value : String) :
    writeAttributes [(name, value)] = writeAttribute name value := by
  rw [writeAttributes, writeAttributes]
  exact bind_pure_unit

theorem when_insertAll (condition : Bool) (fragments : List Fragment) :
    Action.when condition (insertAll fragments) =
      insertAll (if condition then fragments else []) := by
  cases condition with
  | false => rfl
  | true => rfl

theorem when_not_insertAll (condition : Bool) (fragments : List Fragment) :
    Action.when (!condition) (insertAll fragments) =
      insertAll (if condition then [] else fragments) := by
  cases condition with
  | false => rfl
  | true => rfl

/-- A loop whose steps insert fragments inserts the fragments of all steps. -/
theorem forM_eq_insertAll {α : Type} {f : α → Action Builder Unit}
    {g : α → List Fragment} (h : ∀ a, f a = insertAll (g a)) (l : List α) :
    l.forM f = insertAll (l.flatMap g) := by
  induction l with
  | nil => rfl
  | cons a rest ih =>
      rw [List.flatMap_cons, insertAll_append, ← ih, ← h]
      rfl

theorem forM_eq_insertAll_map {α : Type} {f : α → Action Builder Unit}
    {g : α → Fragment} (h : ∀ a, f a = insert (g a)) (l : List α) :
    l.forM f = insertAll (l.map g) := by
  have hsingle : ∀ a, f a = insertAll [g a] := by
    intro a
    rw [insertAll_singleton]
    exact h a
  rw [forM_eq_insertAll hsingle, List.map_eq_flatMap]

theorem when_writeAttribute (name value : String) :
    Action.when (!value.isEmpty) (writeAttribute name value) =
      writeAttributes (if value.isEmpty then [] else [(name, value)]) := by
  rw [← writeAttributes_singleton]
  cases value.isEmpty with
  | false => rfl
  | true => rfl

theorem writeIdentity_eq (id : String) :
    writeIdentity id = writeAttributes (Fragment.identity id) := by
  rw [writeIdentity, when_writeAttribute, Fragment.identity]

theorem when_not_textElement (condition : Bool) (name : String)
    (ns : Namespace) (value : String) :
    Action.when (!condition) (writeTextElement name ns value) =
      insertAll (if condition then [] else [.textElement name ns value]) := by
  rw [← insert_textElement, ← insertAll_singleton, when_not_insertAll]

theorem writeOptionalText_eq (name : String) (ns : Namespace)
    (value : String) :
    writeOptionalText name ns value =
      insertAll (Fragment.optionalText name ns value) := by
  rw [writeOptionalText, when_not_textElement, Fragment.optionalText]

/-! ## Geometries -/

theorem addPositions_eq (vertices : List Position) :
    addPositions vertices =
      insertAll (Position.listFragments vertices) := by
  have hbody : insert (.element "posList" .gml [("srsDimension", "3")]
      [.text (Position.listText vertices)]) =
      (do
        startElement "posList" .gml
        writeAttribute "srsDimension" "3"
        writeText (Position.listText vertices)
        endElement) := by
    rw [insert_element, writeAttributes_singleton, insertAll_singleton,
      insert]
  rw [addPositions, ← hbody, ← insertAll_singleton, when_not_insertAll,
    Position.listFragments]

theorem addRing_eq (r : Ring) : addRing r = insert r.fragment := by
  rw [addRing, Ring.fragment, insert_element, writeIdentity_eq,
    addPositions_eq]

theorem addLine_eq (l : Line) : addLine l = insert l.fragment := by
  rw [addLine, Line.fragment, insert_element, writeIdentity_eq,
    addPositions_eq]

theorem addBoundary_eq (role : String) (r : Ring) :
    addBoundary role r = insert (.wrap role .gml [r.fragment]) := by
  rw [addBoundary, insert_wrap, insertAll_singleton, addRing_eq]

theorem addPolygon_eq (p : Polygon) : addPolygon p = insert p.fragment := by
  rw [addPolygon, Polygon.fragment, insert_element, insertAll_append,
    writeIdentity_eq, forM_eq_insertAll_map (addBoundary_eq "exterior"),
    forM_eq_insertAll_map (addBoundary_eq "interior")]
  simp only [bind_assoc]

theorem addSurfaceMember_eq (p : Polygon) :
    addSurfaceMember p =
      insert (.wrap "surfaceMember" .gml [p.fragment]) := by
  rw [addSurfaceMember, insert_wrap, insertAll_singleton, addPolygon_eq]

/-- The content of a solid stands in an element of its own, which is opened
and closed under the same condition. -/
theorem insertAll_enclose (kind : GeometryKind) (content : List Fragment) :
    insertAll (Geometry.enclose kind content) =
      (do
        .when (kind == .solid) (startElement "exterior" .gml)
        insertAll content
        .when (kind == .solid) endElement) := by
  by_cases h : kind = .solid
  · have htrue : (kind == .solid) = true := by simp [h]
    rw [Geometry.enclose, if_pos h, insertAll_singleton, insert_wrap, htrue]
    rfl
  · have hfalse : (kind == .solid) = false := by simp [h]
    rw [Geometry.enclose, if_neg h, hfalse]
    change insertAll content = (do insertAll content; pure ())
    exact bind_pure_unit.symm

mutual

theorem addGeometry_eq : ∀ g : Geometry, addGeometry g = insert g.fragment
  | ⟨id, lod, role, polygons, lines, children, appearance⟩ => by
    rw [addGeometry, Geometry.fragment, insert_element, insertAll_enclose,
      insertAll_append, insertAll_append, writeIdentity_eq,
      forM_eq_insertAll_map addSurfaceMember_eq,
      forM_eq_insertAll_map addLine_eq, addGeometries_eq children]
    simp only [bind_assoc]

theorem addGeometries_eq :
    ∀ gs : List Geometry, addGeometries gs = insertAll (Geometry.fragments gs)
  | [] => rfl
  | g :: rest => by
    rw [addGeometries, Geometry.fragments, insertAll, addGeometry_eq g,
      addGeometries_eq rest]

end

theorem addEnvelope_eq (e : Envelope) :
    addEnvelope e = insert e.fragment := by
  rw [addEnvelope, Envelope.fragment, insert_wrap, insertAll_singleton,
    insert_element, insertAll, insertAll_singleton, insert_textElement,
    insert_textElement, when_writeAttribute]
  simp only [bind_assoc]

/-! ## Attributes, materials and textures -/

theorem addGenericAttribute_eq (name : String) (value : AttributeValue) :
    addGenericAttribute name value = insert (value.genericFragment name) := by
  rw [addGenericAttribute, AttributeValue.genericFragment, insert_element,
    writeAttributes_singleton, insertAll_singleton, insert_textElement]

theorem addColor_eq (name : String) (c : Color) :
    addColor name c = insertAll (Material.colorFragments name c) := by
  rw [addColor, when_not_textElement, Material.colorFragments]

theorem addScalar_eq (name : String) (x : Single) :
    addScalar name x = insertAll (Material.scalarFragments name x) := by
  rw [addScalar, when_not_textElement, Material.scalarFragments]

theorem addMaterial_eq (m : Material) :
    addMaterial m = insert m.fragment := by
  rw [addMaterial, Material.fragment, insert_element, writeIdentity_eq]
  simp only [insertAll_append, insertAll_singleton, insert_textElement,
    addColor_eq, addScalar_eq, bind_assoc]

theorem addTextureContent_eq (t : Texture) :
    addTextureContent t = insertAll t.fragments := by
  rw [addTextureContent, Texture.fragments, writeOptionalText_eq,
    when_not_textElement, insertAll_append, insertAll_append,
    insertAll_singleton, insert_textElement]
  exact (bind_assoc _ _ _).symm

theorem insert_target (id : String) (content : List Fragment) :
    insert (.element "target" .appearance [("uri", localReference id)]
        content) =
      (do
        startElement "target" .appearance
        writeAttribute "uri" (localReference id)
        insertAll content
        endElement) := by
  rw [insert_element, writeAttributes_singleton]

theorem addMaterialBinding_eq (b : MaterialBinding) :
    addMaterialBinding b = insert b.fragment := by
  rw [addMaterialBinding, MaterialBinding.fragment, insert_wrap, insertAll,
    insertAll_singleton, insert_target, addMaterial_eq, insertAll]
  simp only [bind_assoc, pure_bind]

theorem addRingCoordinates_eq (c : RingCoordinates) :
    addRingCoordinates c = insert c.fragment := by
  rw [addRingCoordinates, RingCoordinates.fragment, insert_element,
    writeAttributes_singleton, insertAll_singleton, insert]

theorem addCoordinates_eq (b : TextureBinding) :
    addCoordinates b.coordinates = insertAll b.coordinateFragments := by
  rw [addCoordinates, forM_eq_insertAll_map addRingCoordinates_eq,
    ← insert_wrap, ← insertAll_singleton, when_not_insertAll,
    TextureBinding.coordinateFragments]

theorem addTextureBinding_eq (b : TextureBinding) :
    addTextureBinding b = insert b.fragment := by
  rw [addTextureBinding, TextureBinding.fragment, insert_wrap,
    insertAll_singleton, insert_wrap, insertAll_append, insertAll_singleton,
    insert_target, addTextureContent_eq, addCoordinates_eq]
  simp only [bind_assoc]

/-! ## Addresses and references -/

theorem addThoroughfare_eq (a : Address) :
    addThoroughfare a = insertAll a.thoroughfareFragments := by
  rw [addThoroughfare, Address.thoroughfareFragments,
    forM_eq_insertAll_map fun text => (insert_textElement
      "ThoroughfareNumber" .xal text).symm,
    forM_eq_insertAll_map fun text => (insert_textElement
      "ThoroughfareName" .xal text).symm]
  rw [← when_insertAll, insertAll_singleton, insert_element,
    writeAttributes_singleton, insertAll_append]
  simp only [bind_assoc]

theorem addPostalCode_eq (code : String) :
    addPostalCode code =
      insert (.wrap "PostalCode" .xal
        [.textElement "PostalCodeNumber" .xal code]) := by
  rw [addPostalCode, insert_wrap, insertAll_singleton, insert_textElement]

theorem addLocality_eq (a : Address) (locality : String) :
    addLocality a locality = insert (a.localityFragment locality) := by
  rw [addLocality, Address.localityFragment, insert_element,
    writeAttributes_singleton, insertAll, insert_textElement,
    insertAll_append, addThoroughfare_eq, Address.postalCodeFragments,
    forM_eq_insertAll_map addPostalCode_eq]
  simp only [bind_assoc]

theorem addCountry_eq (a : Address) (country : String) :
    addCountry a country = insert (a.countryFragment country) := by
  rw [addCountry, Address.countryFragment, insert_wrap, insertAll,
    insert_textElement, forM_eq_insertAll_map (addLocality_eq a)]
  simp only [bind_assoc]

theorem addAddress_eq (a : Address) : addAddress a = insert a.fragment := by
  rw [addAddress, Address.fragment, insert_wrap, insertAll_singleton,
    insert_wrap, insertAll_singleton, insert_wrap,
    forM_eq_insertAll_map (addCountry_eq a)]
  simp only [bind_assoc]

theorem addObjectAddress_eq (a : Address) :
    addObjectAddress a = insert (.wrap "address" .building [a.fragment]) := by
  rw [addObjectAddress, insert_wrap, insertAll_singleton, addAddress_eq]

/-- The element that encloses a record, if the record is named. -/
def recordFragments (content : List Fragment) : List Fragment :=
  if content.isEmpty then [] else [.wrap "externalObject" .core content]

theorem addRecord_eq (kind text : String) :
    addExternalObject.addRecord kind text =
      insertAll (recordFragments (Fragment.optionalText kind .core text)) := by
  rw [addExternalObject.addRecord, ← insert_textElement,
    ← insertAll_singleton, ← insert_wrap, ← insertAll_singleton,
    when_insertAll, Fragment.optionalText]
  cases text.isEmpty with
  | false => rfl
  | true => rfl

theorem addExternalObject_eq (object : ExternalObject) :
    addExternalObject object = insertAll (recordFragments object.fragments) := by
  cases object with
  | name text => exact addRecord_eq "name" text
  | uri text => exact addRecord_eq "uri" text

theorem flatMap_recordFragments (r : ExternalReference) :
    r.object.toList.flatMap
      (fun object => recordFragments object.fragments) =
      r.objectFragments := by
  rw [ExternalReference.objectFragments]
  cases r.object with
  | none => rfl
  | some object => simp [recordFragments]

theorem addExternalReference_eq (r : ExternalReference) :
    addExternalReference r = insert r.fragment := by
  rw [addExternalReference, ExternalReference.fragment, insert_element,
    writeIdentity_eq, writeOptionalText_eq, insertAll_append,
    forM_eq_insertAll addExternalObject_eq, flatMap_recordFragments]
  simp only [bind_assoc]

theorem addCoverage_eq (c : GridCoverage) :
    addCoverage c = insert c.fragment := by
  rw [addCoverage, GridCoverage.fragment, insert_element, writeIdentity_eq,
    addEnvelope_eq, ← insertAll_singleton, when_insertAll]

end Builder

end CityMarkup
