import CityMarkup.Proofs.Namespaces.Requests
import CityMarkup.Proofs.Namespaces.Usage

/-!
# The encoders ask for declared namespaces

Each encoder asks for the namespaces of its own module, whatever it encodes.
An object asks for what the walk before writing finds at it and below it, in
all options, and so does a whole model.
-/

namespace CityMarkup

open Fragment Request

variable {declared : Namespace → Bool}

/-! ## Elements of one namespace -/

namespace Fragment

variable {name : String} {ns : Namespace}

theorem isSound_wrap {content : List Fragment}
    (hplain : name.toList.all Char.isAlphanum = true)
    (hns : ns.IsBound declared) (hcontent : AllSound declared content) :
    IsSound declared (.wrap name ns content) :=
  isSound_element (isSound_prefixed hplain hns known_nil) hcontent

theorem isSound_textElement (hplain : name.toList.all Char.isAlphanum = true)
    (hns : ns.IsBound declared) (value : String) :
    IsSound declared (.textElement name ns value) :=
  isSound_wrap hplain hns (allSound_singleton (isSound_text value))

theorem allSound_optionalText
    (hplain : name.toList.all Char.isAlphanum = true)
    (hns : ns.IsBound declared) (value : String) :
    AllSound declared (optionalText name ns value) :=
  allSound_ite_not
    (allSound_singleton (isSound_textElement hplain hns value))

theorem isSound_identified {content : List Fragment}
    (hplain : name.toList.all Char.isAlphanum = true)
    (hns : ns.IsBound declared) (id : String)
    (hcontent : AllSound declared content) :
    IsSound declared (.element name ns (identity id) content) :=
  isSound_element (isSound_prefixed hplain hns (known_identity id)) hcontent

end Fragment

/-! ## Geometries -/

section Geometries

variable (hgml : Namespace.IsBound declared .gml)
include hgml

theorem Position.allSound_listFragments (vertices : List Position) :
    AllSound declared (Position.listFragments vertices) := by
  have hdimension := known_singleton
    (by decide : "srsDimension" ∈ attributeNames) "3"
  apply allSound_ite_not
  apply allSound_singleton
  refine isSound_element (isSound_prefixed rfl hgml hdimension) ?_
  exact allSound_singleton (isSound_text _)

theorem Ring.isSound_fragment (r : Ring) : r.fragment.IsSound declared :=
  isSound_identified rfl hgml r.id
    (Position.allSound_listFragments hgml r.vertices)

theorem Line.isSound_fragment (l : Line) : l.fragment.IsSound declared :=
  isSound_identified rfl hgml l.id
    (Position.allSound_listFragments hgml l.vertices)

theorem Polygon.isSound_fragment (p : Polygon) :
    p.fragment.IsSound declared := by
  have hring : ∀ role : String, role.toList.all Char.isAlphanum = true →
      ∀ r : Ring, IsSound declared (.wrap role .gml [r.fragment]) := by
    intro role hrole r
    exact isSound_wrap hrole hgml
      (allSound_singleton (r.isSound_fragment hgml))
  refine isSound_identified rfl hgml p.id ?_
  apply AllSound.append
  · exact allSound_map fun r _ => hring "exterior" rfl r
  · exact allSound_map fun r _ => hring "interior" rfl r

theorem Geometry.allSound_enclose {content : List Fragment}
    (hcontent : AllSound declared content) (kind : GeometryKind) :
    AllSound declared (Geometry.enclose kind content) := by
  rw [enclose]
  split
  · refine allSound_singleton ?_
    exact isSound_wrap rfl hgml hcontent
  · exact hcontent

omit hgml in
theorem GeometryKind.plain_elementName (kind : GeometryKind) :
    kind.elementName.toList.all Char.isAlphanum = true := by
  cases kind <;> rfl

theorem Envelope.isSound_fragment (e : Envelope) :
    e.fragment.IsSound declared := by
  refine isSound_wrap rfl hgml (allSound_singleton ?_)
  refine isSound_element (isSound_prefixed rfl hgml ?_) ?_
  · split
    · exact known_nil
    · exact known_singleton (by decide) _
  · refine .cons (isSound_textElement rfl hgml _) ?_
    exact allSound_singleton (isSound_textElement rfl hgml _)

end Geometries

mutual

theorem Geometry.isSound_fragment (hgml : Namespace.IsBound declared .gml) :
    ∀ g : Geometry, g.fragment.IsSound declared
  | ⟨id, _, role, polygons, lines, children, _⟩ => by
    rw [fragment]
    refine isSound_identified (GeometryKind.plain_elementName _) hgml _ ?_
    apply allSound_enclose hgml
    apply AllSound.append
    · apply AllSound.append
      · apply allSound_map
        intro p _
        exact isSound_wrap rfl hgml
          (allSound_singleton (p.isSound_fragment hgml))
      · exact allSound_map fun l _ => l.isSound_fragment hgml
    · exact allSound_fragments hgml children

theorem Geometry.allSound_fragments (hgml : Namespace.IsBound declared .gml) :
    ∀ gs : List Geometry, AllSound declared (Geometry.fragments gs)
  | [] => by
    rw [fragments]
    exact allSound_nil
  | g :: rest => by
    rw [fragments]
    exact .cons (isSound_fragment hgml g) (allSound_fragments hgml rest)

end

/-! ## Attributes -/

theorem AttributeValue.plain_genericName (value : AttributeValue) :
    value.genericName.toList.all Char.isAlphanum = true := by
  cases value <;> rw [genericName] <;> decide

theorem AttributeValue.isSound_genericFragment
    (hgenerics : Namespace.IsBound declared .generics) (name : String)
    (value : AttributeValue) :
    (value.genericFragment name).IsSound declared := by
  have hname := known_singleton (by decide : "name" ∈ attributeNames) name
  refine isSound_element
    (isSound_prefixed value.plain_genericName hgenerics hname) ?_
  exact allSound_singleton (isSound_textElement rfl hgenerics _)

theorem KnownAttribute.plain_of_mem {known : KnownAttribute}
    (h : known ∈ all) :
    known.localName.toList.all Char.isAlphanum = true ∧
      known.ns ≠ .cityGml := by
  have key : ∀ known ∈ all,
      known.localName.toList.all Char.isAlphanum = true ∧
        known.ns ≠ .cityGml := by
    decide +kernel
  exact key known h

theorem Attributes.allSound_entryFragments
    (hgenerics : Namespace.IsBound declared .generics) (generic : Bool)
    (entry : String × AttributeValue) :
    AllSound declared (entryFragments declared generic entry) := by
  rw [entryFragments]
  cases hlookup : (KnownAttribute.lookup? entry.1).filter
      (fun known => declared known.ns) with
  | none =>
      exact allSound_ite (allSound_singleton
        (entry.2.isSound_genericFragment hgenerics entry.1))
  | some known =>
      obtain ⟨hfound, hdeclared⟩ := Option.filter_eq_some_iff.mp hlookup
      have hmem := List.mem_of_find?_eq_some hfound
      obtain ⟨hplain, hne⟩ := KnownAttribute.plain_of_mem hmem
      refine allSound_singleton ?_
      exact isSound_textElement hplain ⟨hne, hdeclared⟩ entry.2.text

theorem Attributes.allSound_fragments
    (hgenerics : Namespace.IsBound declared .generics)
    (attributes : Attributes) (generic : Bool) :
    AllSound declared (fragments attributes declared generic) :=
  allSound_flatMap fun entry _ =>
    allSound_entryFragments hgenerics generic entry

/-! ## Appearances -/

section Appearances

variable (happearance : Namespace.IsBound declared .appearance)
include happearance

theorem Material.allSound_colorFragments {name : String}
    (hplain : name.toList.all Char.isAlphanum = true) (c : Color) :
    AllSound declared (colorFragments name c) :=
  allSound_ite_not
    (allSound_singleton (isSound_textElement hplain happearance c.text))

theorem Material.allSound_scalarFragments {name : String}
    (hplain : name.toList.all Char.isAlphanum = true) (x : Single) :
    AllSound declared (scalarFragments name x) :=
  allSound_ite_not
    (allSound_singleton (isSound_textElement hplain happearance x.text))

theorem Material.isSound_fragment (m : Material) :
    m.fragment.IsSound declared := by
  refine isSound_identified rfl happearance m.id ?_
  simp only [allSound_append]
  refine ⟨⟨⟨⟨⟨⟨?_, ?_⟩, ?_⟩, ?_⟩, ?_⟩, ?_⟩, ?_⟩
  · exact allSound_colorFragments happearance rfl m.diffuse
  · exact allSound_colorFragments happearance rfl m.specular
  · exact allSound_scalarFragments happearance rfl m.ambientIntensity
  · exact allSound_colorFragments happearance rfl m.emissive
  · exact allSound_scalarFragments happearance rfl m.shininess
  · exact allSound_scalarFragments happearance rfl m.transparency
  · exact allSound_singleton (isSound_textElement rfl happearance _)

theorem isSound_target (id : String) {content : List Fragment}
    (hcontent : AllSound declared content) :
    IsSound declared
      (.element "target" .appearance [("uri", localReference id)] content) := by
  have huri := known_singleton (by decide : "uri" ∈ attributeNames)
    (localReference id)
  exact isSound_element (isSound_prefixed rfl happearance huri) hcontent

theorem MaterialBinding.isSound_fragment (b : MaterialBinding) :
    b.fragment.IsSound declared := by
  refine isSound_wrap rfl happearance ?_
  refine .cons (b.material.isSound_fragment happearance) ?_
  exact allSound_singleton (isSound_target happearance b.target allSound_nil)

theorem Texture.allSound_fragments (t : Texture) :
    AllSound declared t.fragments := by
  simp only [Texture.fragments, allSound_append]
  refine ⟨⟨?_, ?_⟩, ?_⟩
  · exact allSound_optionalText rfl happearance t.url
  · exact allSound_singleton (isSound_textElement rfl happearance _)
  · apply allSound_ite_not
    exact allSound_singleton (isSound_textElement rfl happearance _)

theorem RingCoordinates.isSound_fragment (c : RingCoordinates) :
    c.fragment.IsSound declared := by
  have hring : ∀ value, ∀ a ∈ [("ring", value)], a.1 ∈ attributeNames :=
    known_singleton (by decide)
  refine isSound_element (isSound_prefixed rfl happearance (hring _)) ?_
  exact allSound_singleton (isSound_text _)

theorem TextureBinding.isSound_fragment (b : TextureBinding) :
    b.fragment.IsSound declared := by
  have hcoordinates : AllSound declared b.coordinateFragments := by
    apply allSound_ite_not
    refine allSound_singleton (isSound_wrap rfl happearance ?_)
    exact allSound_map fun c _ => c.isSound_fragment happearance
  refine isSound_wrap rfl happearance (allSound_singleton ?_)
  refine isSound_wrap rfl happearance ?_
  apply (b.texture.allSound_fragments happearance).append
  exact allSound_singleton (isSound_target happearance b.target hcoordinates)

theorem ThemedAppearances.allSound_fragments (t : ThemedAppearances) :
    AllSound declared t.fragments := by
  apply allSound_ite_not
  refine allSound_singleton (isSound_wrap rfl happearance ?_)
  apply allSound_map
  intro theme _
  refine isSound_wrap rfl happearance ?_
  refine .cons (isSound_textElement rfl happearance theme) ?_
  apply AllSound.append
  · exact allSound_map fun b _ => b.isSound_fragment happearance
  · exact allSound_map fun b _ => b.isSound_fragment happearance

end Appearances

/-! ## Addresses and references -/

section Addresses

variable (hxal : Namespace.IsBound declared .xal)
include hxal

theorem Address.allSound_thoroughfareFragments (a : Address) :
    AllSound declared a.thoroughfareFragments := by
  have htype := known_singleton (by decide : "Type" ∈ attributeNames) "Street"
  apply allSound_ite
  apply allSound_singleton
  refine isSound_element (isSound_prefixed rfl hxal htype) ?_
  apply AllSound.append
  · exact allSound_map fun text _ => isSound_textElement rfl hxal text
  · exact allSound_map fun text _ => isSound_textElement rfl hxal text

theorem Address.isSound_localityFragment (a : Address) (locality : String) :
    (a.localityFragment locality).IsSound declared := by
  have htype := known_singleton (by decide : "Type" ∈ attributeNames) "City"
  refine isSound_element (isSound_prefixed rfl hxal htype) ?_
  refine .cons (isSound_textElement rfl hxal _) ?_
  apply (a.allSound_thoroughfareFragments hxal).append
  apply allSound_map
  intro code _
  refine isSound_wrap rfl hxal (allSound_singleton ?_)
  exact isSound_textElement rfl hxal code

theorem Address.isSound_countryFragment (a : Address) (country : String) :
    (a.countryFragment country).IsSound declared := by
  refine isSound_wrap rfl hxal ?_
  refine .cons (isSound_textElement rfl hxal _) ?_
  exact allSound_map fun locality _ =>
    a.isSound_localityFragment hxal locality

/-- An address begins with two elements of the default namespace. -/
theorem Address.isSound_fragment (a : Address) :
    a.fragment.IsSound declared := by
  have hdefault : ∀ name ∈ defaultNames,
      Request.IsSound declared ⟨name, .cityGml, []⟩ := by
    intro name hname
    have hplain : ∀ name ∈ defaultNames,
        name.toList.all Char.isAlphanum = true := by
      decide
    exact ⟨hplain name hname, known_nil, hname⟩
  have hdetails : IsSound declared
      (.wrap "AddressDetails" .xal
        ((part a.country).toList.map a.countryFragment)) :=
    isSound_wrap rfl hxal
      (allSound_map fun country _ => a.isSound_countryFragment hxal country)
  apply isSound_element (hdefault "Address" (by decide))
  apply allSound_singleton
  apply isSound_element (hdefault "xalAddress" (by decide))
  exact allSound_singleton hdetails

end Addresses

theorem ExternalReference.isSound_fragment
    (hcore : Namespace.IsBound declared .core) (r : ExternalReference) :
    r.fragment.IsSound declared := by
  have hrecord : ∀ object : ExternalObject,
      AllSound declared object.fragments := by
    intro object
    cases object with
    | name text => exact allSound_optionalText rfl hcore text
    | uri text => exact allSound_optionalText rfl hcore text
  have hobject : AllSound declared r.objectFragments := by
    apply allSound_ite_not
    refine allSound_singleton (isSound_wrap rfl hcore ?_)
    exact allSound_flatMap fun object _ => hrecord object
  refine isSound_identified rfl hcore r.id ?_
  exact (allSound_optionalText rfl hcore _).append hobject

theorem GridCoverage.isSound_fragment
    (hcore : Namespace.IsBound declared .core)
    (hgml : Namespace.IsBound declared .gml) (c : GridCoverage) :
    c.fragment.IsSound declared := by
  refine isSound_identified rfl hcore c.id ?_
  exact allSound_ite (allSound_singleton (c.envelope.isSound_fragment hgml))

end CityMarkup
