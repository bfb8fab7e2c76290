import CityMarkup.Proofs.Appearance.SurfaceData
import CityMarkup.Proofs.Encoding.Identities
import CityMarkup.Proofs.Geometry.Positions

/-!
# Values in a document

Positions, the numbers of materials and textures, and the values of attributes
stand as texts in elements that hold nothing else.  These elements are known by
their names, since no other element has one of them.  In the order of the
document the texts that are found in them are those of the values in a model
which are to be written.
-/

namespace CityMarkup

/-! ## Places -/

/-- The name of an element that holds a value, with its namespace. -/
abbrev Place := Namespace × String

namespace Place

/-- The names of the elements that hold values. -/
def all : List Place :=
  [(.gml, "posList"), (.gml, "lowerCorner"), (.gml, "upperCorner"),
    (.generics, "value")] ++
  ["diffuseColor", "specularColor", "ambientIntensity", "emissiveColor",
    "shininess", "transparency", "borderColor", "textureCoordinates"].map
      (fun name => (.appearance, name)) ++
  KnownAttribute.all.map fun known => (known.ns, known.localName)

/-- A name with the prefix of its namespace. -/
def written (p : Place) : String :=
  p.1.abbreviation.elim p.2 fun short => short ++ ":" ++ p.2

/-- The names of the elements that hold values, as they are written. -/
def writtenNames : List String :=
  all.map written

theorem isSome_abbreviation {p : Place} (h : p ∈ all) :
    p.1.abbreviation.isSome = true := by
  have key : ∀ p ∈ all, p.1.abbreviation.isSome = true := by decide +kernel
  exact key p h

theorem qualify_eq {s : Settings} {p : Place} (h : p ∈ all)
    (hdeclared : s.isDeclared p.1 = true) :
    s.qualify p.2 p.1 = p.written := by
  obtain ⟨short, hshort⟩ := Option.isSome_iff_exists.mp (isSome_abbreviation h)
  rw [Settings.qualify_of_isDeclared hshort hdeclared, written, hshort]
  rfl

theorem colon_notMem_of_plain {name : String}
    (h : name.toList.all Char.isAlphanum = true) : ':' ∉ name.toList := by
  intro hmem
  have hcolon := List.all_eq_true.mp h _ hmem
  exact absurd hcolon (by decide)

/-- Whether a name is plain and not that of an element that holds a value. -/
def IsOther (p : Place) : Prop :=
  p.2.toList.all Char.isAlphanum = true ∧ p ∉ all

instance (p : Place) : Decidable p.IsOther :=
  inferInstanceAs (Decidable (_ ∧ _))

/-- No other element has the name of one that holds a value. -/
theorem qualify_notMem (s : Settings) {name : String} {ns : Namespace}
    (h : IsOther (ns, name)) : s.qualify name ns ∉ writtenNames := by
  intro hmem
  obtain ⟨p, hp, heq⟩ := List.mem_map.mp hmem
  obtain ⟨short, hshort⟩ := Option.isSome_iff_exists.mp
    (isSome_abbreviation hp)
  rw [written, hshort, Option.elim_some, Settings.qualify] at heq
  -- Without a prefix the name is plain, so it cannot be a written one.
  have hprefixed : short ++ ":" ++ p.2 ≠ name := by
    intro hname
    apply colon_notMem_of_plain h.1
    rw [← hname, toList_prefixed]
    simp
  split at heq
  · rename_i other hother
    split at heq
    · obtain ⟨hns, hname⟩ := eq_of_prefixed_eq hshort hother heq
      have hplace : p = (ns, name) := Prod.ext hns hname
      exact h.2 (hplace ▸ hp)
    · exact hprefixed heq
  · exact hprefixed heq

end Place

/-- Whether the namespaces that every document declares are declared. -/
def Settings.DeclaresAlways (s : Settings) : Prop :=
  ∀ ns ∈ NamespaceUsage.always, s.isDeclared ns = true

/-! ## Texts in a document -/

namespace Node

/-- The text in an element, apart from the elements in it. -/
def ownText : List Node → String
  | [] => ""
  | .text value :: rest => value ++ ownText rest
  | .element _ _ _ :: rest => ownText rest

mutual

/-- The names and texts of the elements of a node that hold values, in the order
of the document. -/
def valueTexts : Node → List (String × String)
  | .text _ => []
  | .element name _ children =>
    (if name ∈ Place.writtenNames then [(name, ownText children)] else []) ++
      allValueTexts children

/-- The names and texts of the elements of some nodes that hold values, in the
order of the document. -/
def allValueTexts : List Node → List (String × String)
  | [] => []
  | node :: rest => valueTexts node ++ allValueTexts rest

end

theorem allValueTexts_append (first second : List Node) :
    allValueTexts (first ++ second) =
      allValueTexts first ++ allValueTexts second := by
  induction first with
  | nil => rfl
  | cons node rest ih =>
      rw [List.cons_append, allValueTexts, allValueTexts, ih,
        List.append_assoc]

end Node

namespace Fragment

variable (s : Settings)

/-- The names and texts of the elements that hold values in what is written for
some fragments. -/
def valueTexts (fragments : List Fragment) : List (String × String) :=
  Node.allValueTexts (toNodes s fragments)

theorem lists_valueTexts : Lists (valueTexts s) where
  nil := rfl
  append first second := by
    rw [valueTexts, toNodes_append, Node.allValueTexts_append]
    rfl

/-- An element that holds no value has the texts of its content. -/
theorem valueTexts_element {name : String} {ns : Namespace}
    (h : Place.IsOther (ns, name)) (attributes : List (String × String))
    (content : List Fragment) :
    valueTexts s [.element name ns attributes content] =
      valueTexts s content := by
  rw [valueTexts, toNodes, toNodes, toNode, Node.allValueTexts,
    Node.valueTexts, if_neg (Place.qualify_notMem s h), Node.allValueTexts,
    List.append_nil, List.nil_append, valueTexts]

theorem valueTexts_wrap {name : String} {ns : Namespace}
    (h : Place.IsOther (ns, name)) (content : List Fragment) :
    valueTexts s [.wrap name ns content] = valueTexts s content :=
  valueTexts_element s h [] content

theorem valueTexts_textElement {name : String} {ns : Namespace}
    (h : Place.IsOther (ns, name)) (value : String) :
    valueTexts s [.textElement name ns value] = [] :=
  valueTexts_element s h [] [.text value]

theorem valueTexts_optionalText {name : String} {ns : Namespace}
    (h : Place.IsOther (ns, name)) (value : String) :
    valueTexts s (optionalText name ns value) = [] := by
  rw [optionalText]
  split
  · rfl
  · exact valueTexts_textElement s h value

variable {s}

/-- An element that holds a value has its text. -/
theorem valueTexts_place {p : Place} (hplace : p ∈ Place.all)
    (hdeclared : s.isDeclared p.1 = true)
    (attributes : List (String × String)) (value : String) :
    valueTexts s [.element p.2 p.1 attributes [.text value]] =
      [(p.written, value)] := by
  have hmem : p.written ∈ Place.writtenNames := List.mem_map_of_mem hplace
  rw [valueTexts, toNodes, toNodes, toNode, Node.allValueTexts,
    Node.valueTexts, Place.qualify_eq hplace hdeclared, if_pos hmem]
  simp [Node.ownText, toNodes, toNode, Node.allValueTexts, Node.valueTexts]

end Fragment

/-! ## Values of a model -/

/-- A value that is written as one text. -/
inductive Value where
  | positions (vertices : List Position)
  | numbers (xs : List Single)
  | attributeValue (value : AttributeValue)
deriving DecidableEq

/-- The text of a value. -/
def Value.text : Value → String
  | positions vertices => Position.listText vertices
  | numbers xs => BinaryNumber.listText xs
  | attributeValue value => value.text

/-- The name and the text of the element for a value in its place. -/
def Value.entry (found : Place × Value) : String × String :=
  (found.1.written, found.2.text)

/-- The values of some vertices. -/
def Position.values (vertices : List Position) : List (Place × Value) :=
  if vertices.isEmpty then []
  else [((.gml, "posList"), .positions vertices)]

/-- The values of a polygon, ring by ring. -/
def Polygon.values (p : Polygon) : List (Place × Value) :=
  (p.exterior.toList ++ p.interiors).flatMap fun r =>
    Position.values r.vertices

mutual

/-- The values of a geometry and of everything in it. -/
def Geometry.values : Geometry → List (Place × Value)
  | ⟨_, _, _, polygons, lines, children, _⟩ =>
    polygons.flatMap Polygon.values ++
      lines.flatMap (fun l => Position.values l.vertices) ++
      Geometry.allValues children

/-- The values of some geometries and of everything in them. -/
def Geometry.allValues : List Geometry → List (Place × Value)
  | [] => []
  | g :: rest => g.values ++ Geometry.allValues rest

end

/-- The values of an envelope. -/
def Envelope.values (e : Envelope) : List (Place × Value) :=
  [((.gml, "lowerCorner"), .positions [e.lower]),
    ((.gml, "upperCorner"), .positions [e.upper])]

/-- The place for the value of an attribute. -/
def KnownAttribute.place (declared : Namespace → Bool) (name : String) :
    Place :=
  match (lookup? name).filter fun known => declared known.ns with
  | some known => (known.ns, known.localName)
  | none => (.generics, "value")

/-- The values of some attributes that are to be written. -/
def Attributes.values (s : Settings) (generic : Bool)
    (attributes : Attributes) : List (Place × Value) :=
  (attributes.shown s generic).map fun entry =>
    (KnownAttribute.place s.isDeclared entry.1, .attributeValue entry.2)

/-- The values of some parameters that are to be written. -/
def Parameter.values (ps : List Parameter) : List (Place × Value) :=
  (shown ps).map fun p => ((.appearance, p.name), .numbers p.numbers)

/-- The values of a texture and the rings of its target. -/
def TextureBinding.values (b : TextureBinding) : List (Place × Value) :=
  Parameter.values b.texture.parameters ++
    b.coordinates.map fun c =>
      ((.appearance, "textureCoordinates"), .numbers c.numbers)

open ThemedAppearances in
/-- The values of everything that is bound for a theme, once for each
identifier. -/
def ThemedAppearances.themeValues (t : ThemedAppearances) (theme : String) :
    List (Place × Value) :=
  (written (t.markedMaterials theme)).flatMap
      (fun b => Parameter.values b.material.parameters) ++
    (written (t.markedTextures theme)).flatMap TextureBinding.values

/-- The values of all themes. -/
def ThemedAppearances.values (t : ThemedAppearances) : List (Place × Value) :=
  t.themes.flatMap t.themeValues

/-- The value of a coverage whose extent is to be written. -/
def GridCoverage.values (c : GridCoverage) : List (Place × Value) :=
  if c.envelope.isDefined && !c.envelope.isZero then c.envelope.values
  else []

mutual

/-- The values of an object and everything below it that are to be written. -/
def CityObject.values (s : Settings) (o : Options) (isRoot : Bool) :
    CityObject → List (Place × Value)
  | object@⟨_, type, attributes, geometries, children, _, _, coverage⟩ =>
    Attributes.values s o.genericAttributes attributes ++
      (shownAppearances o isRoot object).values ++
      (geometries.filter (Geometry.hasPlace o type)).flatMap Geometry.values ++
      CityObject.childValues s o children ++
      if o.externalReferences then
        coverage.toList.flatMap GridCoverage.values
      else []

/-- The values of the objects below an object that are to be written. -/
def CityObject.childValues (s : Settings) (o : Options) :
    List CityObject → List (Place × Value)
  | [] => []
  | child :: rest =>
    child.values s o false ++ CityObject.childValues s o rest

end

/-- The values of a model that are to be written. -/
def CityModel.values (o : Options) (m : CityModel) : List (Place × Value) :=
  let s := m.settings o
  Attributes.values s o.genericAttributes m.attributes ++
    (if m.envelope.isDefined then m.envelope.values else []) ++
    m.objects.flatMap (CityObject.values s o true)

/-! ## Values of geometries in a document -/

section Geometries

open Fragment

theorem Geometry.valueTexts_enclose (s : Settings) (kind : GeometryKind)
    (content : List Fragment) :
    valueTexts s (enclose kind content) = valueTexts s content := by
  rw [enclose]
  split
  · exact valueTexts_wrap s (by decide +kernel) content
  · rfl

theorem GeometryKind.isOther_place (kind : GeometryKind) :
    Place.IsOther (.gml, kind.elementName) := by
  cases kind <;> decide +kernel

variable {s : Settings}

theorem Position.valueTexts_listFragments (h : s.DeclaresAlways)
    (vertices : List Position) :
    valueTexts s (listFragments vertices) =
      (values vertices).map Value.entry := by
  rw [listFragments, values]
  split
  · rfl
  · exact valueTexts_place (p := (.gml, "posList")) (by decide)
      (h .gml (by decide)) _ _

theorem Ring.valueTexts_fragment (h : s.DeclaresAlways) (r : Ring) :
    valueTexts s [r.fragment] =
      (Position.values r.vertices).map Value.entry := by
  rw [fragment, valueTexts_element s (by decide +kernel),
    Position.valueTexts_listFragments h]

theorem Line.valueTexts_fragment (h : s.DeclaresAlways) (l : Line) :
    valueTexts s [l.fragment] =
      (Position.values l.vertices).map Value.entry := by
  rw [fragment, valueTexts_element s (by decide +kernel),
    Position.valueTexts_listFragments h]

theorem Polygon.valueTexts_fragment (h : s.DeclaresAlways) (p : Polygon) :
    valueTexts s [p.fragment] = p.values.map Value.entry := by
  have hwrap : ∀ role, Place.IsOther (.gml, role) → ∀ r : Ring,
      valueTexts s [.wrap role .gml [r.fragment]] =
        (Position.values r.vertices).map Value.entry := by
    intro role hrole r
    rw [valueTexts_wrap s hrole, r.valueTexts_fragment h]
  have hexterior := hwrap "exterior" (by decide +kernel)
  have hinterior := hwrap "interior" (by decide +kernel)
  rw [fragment, valueTexts_element s (by decide +kernel),
    (lists_valueTexts s).append, (lists_valueTexts s).map,
    (lists_valueTexts s).map, values, List.map_flatMap, List.flatMap_append]
  simp only [hexterior, hinterior]

mutual

/-- A geometry is written with all its values, in their order. -/
theorem Geometry.valueTexts_fragment (h : s.DeclaresAlways) :
    ∀ g : Geometry, valueTexts s [g.fragment] = g.values.map Value.entry
  | ⟨id, _, role, polygons, lines, children, _⟩ => by
    have hmember : ∀ p : Polygon,
        valueTexts s [.wrap "surfaceMember" .gml [p.fragment]] =
          p.values.map Value.entry := by
      intro p
      rw [valueTexts_wrap s (by decide +kernel), p.valueTexts_fragment h]
    rw [fragment, valueTexts_element s (GeometryKind.isOther_place _),
      valueTexts_enclose, (lists_valueTexts s).append,
      (lists_valueTexts s).append, (lists_valueTexts s).map,
      (lists_valueTexts s).map, valueTexts_fragments h children, values,
      List.map_append, List.map_append, List.map_flatMap, List.map_flatMap]
    simp only [hmember, Line.valueTexts_fragment h]

theorem Geometry.valueTexts_fragments (h : s.DeclaresAlways) :
    ∀ gs : List Geometry,
    valueTexts s (fragments gs) = (allValues gs).map Value.entry
  | [] => rfl
  | g :: rest => by
    rw [fragments, (lists_valueTexts s).cons, valueTexts_fragment h g,
      valueTexts_fragments h rest, allValues, List.map_append]

end

theorem Envelope.valueTexts_fragment (h : s.DeclaresAlways) (e : Envelope) :
    valueTexts s [e.fragment] = e.values.map Value.entry := by
  have hlower := valueTexts_place (s := s) (p := (.gml, "lowerCorner"))
    (by decide) (h .gml (by decide)) [] e.lower.text
  have hupper := valueTexts_place (s := s) (p := (.gml, "upperCorner"))
    (by decide) (h .gml (by decide)) [] e.upper.text
  rw [fragment, valueTexts_wrap s (by decide +kernel),
    valueTexts_element s (by decide +kernel), (lists_valueTexts s).cons,
    textElement, textElement, hlower, hupper]
  simp [values, Value.entry, Value.text, Position.listText]

end Geometries

/-! ## Values of materials and textures in a document -/

section Appearances

open Fragment

variable {s : Settings}

theorem Parameter.valueTexts_fragments (h : s.DeclaresAlways)
    {ps : List Parameter}
    (hps : ∀ p ∈ ps, (.appearance, p.name) ∈ Place.all) :
    valueTexts s (ps.flatMap fragments) = (values ps).map Value.entry := by
  rw [flatMap_fragments, (lists_valueTexts s).map, values, List.map_map,
    List.map_eq_flatMap]
  apply List.flatMap_congr
  intro p hp
  exact valueTexts_place (hps p (List.mem_of_mem_filter hp))
    (h .appearance (by decide)) [] _

theorem MaterialBinding.valueTexts_fragment (h : s.DeclaresAlways)
    (b : MaterialBinding) :
    valueTexts s [b.fragment] =
      (Parameter.values b.material.parameters).map Value.entry := by
  have hplaces : ∀ name ∈ b.material.parameters.map Parameter.name,
      (.appearance, name) ∈ Place.all := by
    rw [Material.names_parameters]
    decide +kernel
  have hparameters := Parameter.valueTexts_fragments h
    fun p hp => hplaces p.name (List.mem_map_of_mem hp)
  have hmaterial : valueTexts s [b.material.fragment] =
      (Parameter.values b.material.parameters).map Value.entry := by
    rw [Material.fragment_eq, valueTexts_element s (by decide +kernel),
      Material.content, (lists_valueTexts s).append, hparameters,
      Material.smoothFragment, valueTexts_textElement s (by decide +kernel),
      List.append_nil]
  rw [fragment, valueTexts_wrap s (by decide +kernel),
    (lists_valueTexts s).cons, hmaterial,
    valueTexts_element s (by decide +kernel), (lists_valueTexts s).nil,
    List.append_nil]

theorem RingCoordinates.valueTexts_fragment (h : s.DeclaresAlways)
    (c : RingCoordinates) :
    valueTexts s [c.fragment] =
      [Value.entry ((.appearance, "textureCoordinates"),
        .numbers c.numbers)] := by
  have hplace := valueTexts_place (s := s)
    (p := (.appearance, "textureCoordinates")) (by decide +kernel)
    (h .appearance (by decide)) [("ring", localReference c.ring)]
    (BinaryNumber.listText c.numbers)
  rw [fragment, c.text_eq, hplace]
  rfl

theorem TextureBinding.valueTexts_fragment (h : s.DeclaresAlways)
    (b : TextureBinding) :
    valueTexts s [b.fragment] = b.values.map Value.entry := by
  have hplaces : ∀ name ∈ b.texture.parameters.map Parameter.name,
      (.appearance, name) ∈ Place.all := by
    rw [Texture.names_parameters]
    decide +kernel
  have htexture : valueTexts s b.texture.fragments =
      (Parameter.values b.texture.parameters).map Value.entry := by
    rw [Texture.fragments_eq, (lists_valueTexts s).append,
      valueTexts_optionalText s (by decide +kernel), (lists_valueTexts s).cons,
      valueTexts_textElement s (by decide +kernel),
      Parameter.valueTexts_fragments h
        fun p hp => hplaces p.name (List.mem_map_of_mem hp)]
    rfl
  have hrings : valueTexts s b.coordinateFragments =
      b.coordinates.map fun c => Value.entry
        ((.appearance, "textureCoordinates"), .numbers c.numbers) := by
    rw [coordinateFragments]
    split
    · rename_i hempty
      rw [List.isEmpty_iff.mp hempty]
      rfl
    · rw [valueTexts_wrap s (by decide +kernel), (lists_valueTexts s).map,
        List.map_eq_flatMap]
      simp only [RingCoordinates.valueTexts_fragment h]
  rw [fragment, valueTexts_wrap s (by decide +kernel),
    valueTexts_wrap s (by decide +kernel), (lists_valueTexts s).append,
    htexture, valueTexts_element s (by decide +kernel), hrings, values,
    List.map_append, List.map_map]
  rfl

theorem ThemedAppearances.valueTexts_fragments (h : s.DeclaresAlways)
    (t : ThemedAppearances) :
    valueTexts s t.fragments = t.values.map Value.entry := by
  have htheme : ∀ theme, valueTexts s [t.themeFragment theme] =
      (t.themeValues theme).map Value.entry := by
    intro theme
    rw [themeFragment, valueTexts_wrap s (by decide +kernel),
      (lists_valueTexts s).cons, valueTexts_textElement s (by decide +kernel),
      (lists_valueTexts s).append, (lists_valueTexts s).map,
      (lists_valueTexts s).map, themeValues, List.map_append, List.map_flatMap,
      List.map_flatMap, List.nil_append]
    simp only [MaterialBinding.valueTexts_fragment h,
      TextureBinding.valueTexts_fragment h]
  rw [fragments, values]
  by_cases hempty : t.isEmpty = true
  · rw [if_pos hempty, Builder.themes_of_isEmpty hempty]
    rfl
  · rw [if_neg hempty, valueTexts_wrap s (by decide +kernel),
      (lists_valueTexts s).map, List.map_flatMap]
    simp only [htheme]

end Appearances

/-! ## Values of objects in a document -/

section Objects

open Fragment

theorem ExternalReference.valueTexts_fragment (s : Settings)
    (r : ExternalReference) : valueTexts s [r.fragment] = [] := by
  have hcontent : valueTexts s
      (r.object.toList.flatMap ExternalObject.fragments) = [] := by
    rw [(lists_valueTexts s).flatMap, List.flatMap_eq_nil_iff]
    intro object _
    cases object with
    | name text =>
        exact valueTexts_optionalText s (by decide +kernel) text
    | uri text =>
        exact valueTexts_optionalText s (by decide +kernel) text
  have hobject : valueTexts s r.objectFragments = [] := by
    rw [objectFragments]
    split
    · rfl
    · rw [valueTexts_wrap s (by decide +kernel), hcontent]
  rw [fragment, valueTexts_element s (by decide +kernel),
    (lists_valueTexts s).append, hobject,
    valueTexts_optionalText s (by decide +kernel)]
  rfl

theorem Address.valueTexts_fragment (s : Settings) (a : Address) :
    valueTexts s [a.fragment] = [] := by
  have hthoroughfare : valueTexts s a.thoroughfareFragments = [] := by
    rw [thoroughfareFragments]
    split
    · rw [valueTexts_element s (by decide +kernel),
        (lists_valueTexts s).append,
        (lists_valueTexts s).map_eq_nil
          fun text => valueTexts_textElement s (by decide +kernel) text,
        (lists_valueTexts s).map_eq_nil
          fun text => valueTexts_textElement s (by decide +kernel) text]
      rfl
    · rfl
  have hcode : valueTexts s a.postalCodeFragments = [] := by
    rw [postalCodeFragments]
    refine (lists_valueTexts s).map_eq_nil (fun code => ?_) _
    rw [valueTexts_wrap s (by decide +kernel),
      valueTexts_textElement s (by decide +kernel)]
  have hlocality : ∀ locality,
      valueTexts s [a.localityFragment locality] = [] := by
    intro locality
    rw [localityFragment, valueTexts_element s (by decide +kernel),
      (lists_valueTexts s).cons, valueTexts_textElement s (by decide +kernel),
      (lists_valueTexts s).append, hthoroughfare, hcode]
    rfl
  have hcountry : ∀ country,
      valueTexts s [a.countryFragment country] = [] := by
    intro country
    rw [countryFragment, valueTexts_wrap s (by decide +kernel),
      (lists_valueTexts s).cons, valueTexts_textElement s (by decide +kernel),
      (lists_valueTexts s).map_eq_nil hlocality]
    rfl
  rw [fragment, valueTexts_wrap s (by decide +kernel),
    valueTexts_wrap s (by decide +kernel),
    valueTexts_wrap s (by decide +kernel),
    (lists_valueTexts s).map_eq_nil hcountry]

theorem FeatureType.isOther_place (type : FeatureType) :
    Place.IsOther (type.thematicModule, type.elementName) := by
  have key : ∀ type ∈ all,
      Place.IsOther (type.thematicModule, type.elementName) := by
    decide +kernel
  exact key type (mem_all type)

theorem FeatureType.isOther_container (type : FeatureType) {lod : Nat}
    (h : lod ≤ 4) (solid : Bool) :
    Place.IsOther (.building, type.containerName lod solid) := by
  have key : ∀ name ∈ containerNames, Place.IsOther (.building, name) := by
    decide +kernel
  exact key _ (List.contains_iff_mem.mp (type.containerName_mem h solid).2)

variable {s : Settings}

theorem Attributes.valueTexts_fragments (h : s.DeclaresAlways)
    (generic : Bool) (attributes : Attributes) :
    valueTexts s (attributes.fragments s.isDeclared generic) =
      (attributes.values s generic).map Value.entry := by
  have hentry : ∀ entry : String × AttributeValue,
      valueTexts s [entryFragment s.isDeclared entry] =
        [Value.entry (KnownAttribute.place s.isDeclared entry.1,
          .attributeValue entry.2)] := by
    rintro ⟨name, value⟩
    rw [entryFragment, KnownAttribute.place]
    cases hproperty : (KnownAttribute.lookup? name).filter
        fun known => s.isDeclared known.ns with
    | some known =>
        obtain ⟨hlookup, hdeclared⟩ := Option.filter_eq_some_iff.mp hproperty
        obtain ⟨hmem, -⟩ := KnownAttribute.lookup?_eq_some_iff.mp hlookup
        have hplace : (known.ns, known.localName) ∈ Place.all :=
          List.mem_append_right _ (List.mem_map_of_mem hmem)
        exact valueTexts_place hplace hdeclared [] value.text
    | none =>
        have hvalue := valueTexts_place (s := s) (p := (.generics, "value"))
          (by decide +kernel) (h .generics (by decide)) [] value.text
        have hwrapper : Place.IsOther (.generics, value.genericName) := by
          cases value <;> rw [AttributeValue.genericName] <;> decide +kernel
        rw [AttributeValue.genericFragment, valueTexts_element s hwrapper,
          textElement, hvalue]
        rfl
  rw [fragments_eq_map_shown, (lists_valueTexts s).map, values, List.map_map,
    List.map_eq_flatMap]
  simp only [hentry, Function.comp_apply]

theorem GridCoverage.valueTexts_fragment (h : s.DeclaresAlways)
    (c : GridCoverage) :
    valueTexts s [c.fragment] = c.values.map Value.entry := by
  rw [fragment, valueTexts_element s (by decide +kernel), values]
  split
  · exact c.envelope.valueTexts_fragment h
  · rfl

mutual

/-- An object is written with the values that are to be written, in their
order. -/
theorem CityObject.valueTexts_fragment (h : s.DeclaresAlways) (o : Options)
    (isRoot : Bool) :
    ∀ object : CityObject,
      valueTexts s [object.fragment s.isDeclared o isRoot] =
        (object.values s o isRoot).map Value.entry
  | ⟨id, type, attributes, geometries, children, address, reference,
      coverage⟩ => by
    have hgeometries : valueTexts s
        (geometries.flatMap (Geometry.placedFragments o type)) =
        ((geometries.filter (Geometry.hasPlace o type)).flatMap
          Geometry.values).map Value.entry := by
      rw [Geometry.flatMap_placedFragments, (lists_valueTexts s).map,
        List.map_flatMap]
      apply List.flatMap_congr
      intro g hg
      -- A geometry that has a place has one of the known containers.
      have hlod : g.lod ≤ 4 := by
        have hplace := (List.mem_filter.mp hg).2
        rw [Geometry.hasPlace, Bool.and_eq_true] at hplace
        exact of_decide_eq_true hplace.2
      rw [Geometry.containerFragment,
        valueTexts_wrap s (type.isOther_container hlod _),
        g.valueTexts_fragment h]
    have haddress : valueTexts s (addressFragments o address) = [] := by
      rw [addressFragments]
      split
      · refine (lists_valueTexts s).map_eq_nil (fun a => ?_) _
        rw [valueTexts_wrap s (by decide +kernel), a.valueTexts_fragment]
      · rfl
    have hreferences : valueTexts s
        (referenceFragments o reference coverage) =
        (if o.externalReferences then
          coverage.toList.flatMap GridCoverage.values
        else []).map Value.entry := by
      rw [referenceFragments]
      split
      · rw [(lists_valueTexts s).append,
          (lists_valueTexts s).map_eq_nil
            (ExternalReference.valueTexts_fragment s),
          (lists_valueTexts s).map, List.nil_append, List.map_flatMap]
        simp only [GridCoverage.valueTexts_fragment h]
      · rfl
    rw [fragment, valueTexts_element s type.isOther_place, values]
    simp only [(lists_valueTexts s).append, List.map_append,
      Attributes.valueTexts_fragments h,
      ThemedAppearances.valueTexts_fragments h, hgeometries, haddress,
      hreferences, valueTexts_childFragments h o children, List.append_nil]

theorem CityObject.valueTexts_childFragments (h : s.DeclaresAlways)
    (o : Options) :
    ∀ children : List CityObject,
      valueTexts s (childFragments s.isDeclared o children) =
        (childValues s o children).map Value.entry
  | [] => rfl
  | child :: rest => by
    rw [childFragments, (lists_valueTexts s).cons,
      valueTexts_wrap s (by decide +kernel),
      valueTexts_fragment h o false child, valueTexts_childFragments h o rest,
      childValues, List.map_append]

end

end Objects

/-- The document of a model has the values of the model that are to be written,
each in its place. -/
theorem CityModel.valueTexts_encodedRoot (o : Options) (m : CityModel) :
    (m.encodedRoot o).toNode.valueTexts =
      (m.values o).map Value.entry := by
  have h : (m.settings o).DeclaresAlways := (declaresFor_settings o m).always
  have hroot : (m.encodedRoot o).toNode.valueTexts =
      Fragment.valueTexts (m.settings o)
        (m.fragments (m.settings o).isDeclared o) := by
    have hname := Settings.qualify_cityGml (m.settings o) "CityModel"
    have hother : "CityModel" ∉ Place.writtenNames := by decide +kernel
    rw [OpenElement.toNode, Node.valueTexts, encodedRoot, documentElement,
      hname, if_neg hother, List.nil_append, Fragment.valueTexts]
  have hmember : ∀ object : CityObject, Fragment.valueTexts (m.settings o)
      [memberFragment (m.settings o).isDeclared o object] =
        (object.values (m.settings o) o true).map Value.entry := by
    intro object
    rw [memberFragment, Fragment.valueTexts_wrap _ (by decide +kernel),
      object.valueTexts_fragment h]
  have hextent : Fragment.valueTexts (m.settings o)
      (if m.envelope.isDefined then [m.envelope.fragment] else []) =
        (if m.envelope.isDefined then m.envelope.values else []).map
          Value.entry := by
    split
    · exact m.envelope.valueTexts_fragment h
    · rfl
  have hlists := Fragment.lists_valueTexts (m.settings o)
  rw [hroot, fragments, hlists.append, hlists.append,
    Attributes.valueTexts_fragments h, hextent, hlists.map, values,
    List.map_append, List.map_append, List.map_flatMap]
  simp only [hmember]

end CityMarkup
