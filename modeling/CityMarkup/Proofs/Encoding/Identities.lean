import CityMarkup.Proofs.Appearance.References
import CityMarkup.Proofs.Encoding.Containers
import CityMarkup.Proofs.Encoding.Listings
import CityMarkup.Proofs.Namespaces.Declarations

/-!
# Identifiers in a document

The elements that have an identifier are entered in the order of their starts,
those of materials as a whole and all others by their identifiers.  The entries
for a list of fragments are those of its members, so they are read off for one
encoder after the other: attributes, addresses and textures have none, a
geometry is entered with the identifiers of everything in it, and a theme with
its materials.
-/

namespace CityMarkup

/-! ## Elements with identifiers -/

namespace Node

mutual

/-- The elements of a node that have an identifier, each behind it, in the
order of their starts. -/
def identified : Node → List (String × Node)
  | .text _ => []
  | .element name attributes children =>
    ((attributes.lookup "gml:id").toList.map fun id =>
      (id, .element name attributes children)) ++ allIdentified children

/-- The elements of some nodes that have an identifier, each behind it, in the
order of their starts. -/
def allIdentified : List Node → List (String × Node)
  | [] => []
  | node :: rest => identified node ++ allIdentified rest

end

theorem allIdentified_append (first second : List Node) :
    allIdentified (first ++ second) =
      allIdentified first ++ allIdentified second := by
  induction first with
  | nil => rfl
  | cons node rest ih =>
      rw [List.cons_append, allIdentified, allIdentified, ih,
        List.append_assoc]

/-- Whether a node is the element of a material, by its local name. -/
def isMaterial : Node → Bool
  | .element name _ _ => Outline.localName name == "Material"
  | .text _ => false

/-- What is entered for an element with an identifier: the identifier, and the
whole element if it is that of a material. -/
def entry (found : String × Node) : String × Option Node :=
  (found.1, if found.2.isMaterial then some found.2 else none)

end Node

/-- The entry of a part that is no material, unless it has no identifier. -/
def ownEntry (id : String) : List (String × Option Node) :=
  if id.isEmpty then [] else [(id, none)]

namespace Fragment

variable (s : Settings)

/-- The entries for what is written for some fragments. -/
def entries (fragments : List Fragment) : List (String × Option Node) :=
  (Node.allIdentified (toNodes s fragments)).map Node.entry

theorem entries_nil : entries s [] = [] := rfl

theorem lists_entries : Lists (entries s) where
  nil := rfl
  append first second := by
    rw [entries, toNodes_append, Node.allIdentified_append, List.map_append]
    rfl

theorem entries_append (first second : List Fragment) :
    entries s (first ++ second) = entries s first ++ entries s second :=
  (lists_entries s).append first second

theorem entries_cons (fragment : Fragment) (rest : List Fragment) :
    entries s (fragment :: rest) = entries s [fragment] ++ entries s rest :=
  (lists_entries s).cons fragment rest

theorem entries_text (value : String) : entries s [.text value] = [] := rfl

theorem entries_flatMap {α : Type} (f : α → List Fragment) (l : List α) :
    entries s (l.flatMap f) = l.flatMap fun a => entries s (f a) :=
  (lists_entries s).flatMap f l

theorem entries_map {α : Type} (f : α → Fragment) (l : List α) :
    entries s (l.map f) = l.flatMap fun a => entries s [f a] :=
  (lists_entries s).map f l

theorem entries_map_eq_nil {α : Type} {f : α → Fragment}
    (h : ∀ a, entries s [f a] = []) (l : List α) :
    entries s (l.map f) = [] :=
  (lists_entries s).map_eq_nil h l

theorem entries_ite {condition : Prop} [Decidable condition]
    (fragments : List Fragment) :
    entries s (if condition then fragments else []) =
      if condition then entries s fragments else [] := by
  split
  · rfl
  · rfl

theorem entries_element_eq (name : String) (ns : Namespace)
    (attributes : List (String × String)) (content : List Fragment) :
    entries s [.element name ns attributes content] =
      ((((attributes.foldl (fun l a => setAttribute a.1 a.2 l) []).lookup
        "gml:id").toList.map fun id =>
          Node.entry (id, toNode s (.element name ns attributes content))) ++
        entries s content) := by
  rw [entries, toNodes, toNodes, Node.allIdentified, Node.allIdentified,
    List.append_nil, toNode, Node.identified, List.map_append, List.map_map]
  rfl

/-- An element without an identifier has the entries of its content. -/
theorem entries_element {name : String} {ns : Namespace}
    {attributes : List (String × String)} {content : List Fragment}
    (h : "gml:id" ∉ attributes.map Prod.fst) :
    entries s [.element name ns attributes content] = entries s content := by
  have hnone : (attributes.foldl (fun l a => setAttribute a.1 a.2 l)
      []).lookup "gml:id" = none := by
    rw [List.lookup_eq_none_iff]
    intro a ha
    rw [bne_iff_ne]
    intro hid
    rcases mem_keys_foldl_setAttribute (List.mem_map_of_mem ha) with hold | hadd
    · cases hold
    · rw [← hid] at hadd
      exact h hadd
  rw [entries_element_eq, hnone]
  rfl

theorem entries_attributed {key : String} (h : key ≠ "gml:id")
    (name : String) (ns : Namespace) (value : String)
    (content : List Fragment) :
    entries s [.element name ns [(key, value)] content] =
      entries s content := by
  apply entries_element
  rw [List.map_singleton, List.mem_singleton]
  exact Ne.symm h

theorem entries_wrap (name : String) (ns : Namespace)
    (content : List Fragment) :
    entries s [.wrap name ns content] = entries s content :=
  entries_element s List.not_mem_nil

theorem entries_textElement (name : String) (ns : Namespace)
    (value : String) : entries s [.textElement name ns value] = [] :=
  entries_element s List.not_mem_nil

/-- A text that is left out on a condition has no entry in either case. -/
theorem entries_unless (condition : Prop) [Decidable condition]
    (name : String) (ns : Namespace) (value : String) :
    entries s (if condition then [] else [.textElement name ns value]) =
      [] := by
  split
  · exact entries_nil s
  · exact entries_textElement s name ns value

/-- An element with an identifier has one entry more than its content. -/
theorem entries_identified {name : String}
    (hplain : name.toList.all Char.isAlphanum = true)
    (hname : name ≠ "Material") (ns : Namespace) (id : String)
    (content : List Fragment) :
    entries s [.element name ns (identity id) content] =
      ownEntry id ++ entries s content := by
  by_cases hid : id.isEmpty = true
  · rw [ownEntry, if_pos hid, List.nil_append]
    apply entries_element
    rw [identity, if_pos hid]
    exact List.not_mem_nil
  · have hmaterial : (toNode s
        (.element name ns (identity id) content)).isMaterial = false := by
      rw [toNode, Node.isMaterial, s.localName_qualify hplain]
      exact beq_false_of_ne hname
    rw [entries_element_eq, ownEntry, if_neg hid]
    congr 1
    have hlookup : ((identity id).foldl (fun l a => setAttribute a.1 a.2 l)
        []).lookup "gml:id" = some id := by
      rw [identity, if_neg hid]
      rfl
    rw [hlookup, Option.toList_some, List.map_singleton, Node.entry, hmaterial]
    rfl

end Fragment

/-! ## Parts without identifiers -/

section Anonymous

open Fragment

variable (s : Settings)

theorem Attributes.entries_fragments (declared : Namespace → Bool)
    (generic : Bool) (attributes : Attributes) :
    entries s (attributes.fragments declared generic) = [] := by
  rw [fragments, entries_flatMap, List.flatMap_eq_nil_iff]
  rintro ⟨name, value⟩ -
  rw [entryFragments]
  split
  · exact entries_textElement s _ _ _
  · rw [entries_ite, AttributeValue.genericFragment,
      entries_attributed s (by decide),
      entries_textElement, ite_self]

theorem Envelope.entries_fragment (e : Envelope) :
    entries s [e.fragment] = [] := by
  have hname : "gml:id" ∉ (if (e.srsName.getD "").isEmpty then []
      else [("srsName", e.srsName.getD "")]).map Prod.fst := by
    split
    · exact List.not_mem_nil
    · exact (by decide : "gml:id" ∉ ["srsName"])
  rw [fragment, entries_wrap, entries_element s hname, entries_cons,
    entries_textElement, entries_textElement, List.nil_append]

theorem Address.entries_thoroughfareFragments (a : Address) :
    entries s a.thoroughfareFragments = [] := by
  rw [thoroughfareFragments]
  split
  · rw [entries_attributed s (by decide), entries_append,
      entries_map_eq_nil s fun text => entries_textElement s _ _ text,
      entries_map_eq_nil s fun text => entries_textElement s _ _ text,
      List.nil_append]
  · exact entries_nil s

theorem Address.entries_postalCodeFragments (a : Address) :
    entries s a.postalCodeFragments = [] := by
  rw [postalCodeFragments]
  refine entries_map_eq_nil s (fun code => ?_) _
  rw [entries_wrap, entries_textElement]

theorem Address.entries_localityFragment (a : Address) (locality : String) :
    entries s [a.localityFragment locality] = [] := by
  rw [localityFragment, entries_attributed s (by decide),
    entries_cons, entries_textElement, entries_append,
    entries_thoroughfareFragments, entries_postalCodeFragments]
  rfl

theorem Address.entries_fragment (a : Address) :
    entries s [a.fragment] = [] := by
  have hcountry : ∀ country, entries s [a.countryFragment country] = [] := by
    intro country
    rw [countryFragment, entries_wrap, entries_cons, entries_textElement,
      entries_map_eq_nil s (a.entries_localityFragment s), List.nil_append]
  rw [fragment, entries_wrap, entries_wrap, entries_wrap,
    entries_map_eq_nil s hcountry]

theorem entries_optionalText (name : String) (ns : Namespace)
    (value : String) : entries s (optionalText name ns value) = [] :=
  entries_unless s _ name ns value

theorem TextureBinding.entries_fragment (b : TextureBinding) :
    entries s [b.fragment] = [] := by
  have hring : ∀ c : RingCoordinates, entries s [c.fragment] = [] := by
    intro c
    rw [RingCoordinates.fragment,
      entries_attributed s (by decide), entries_text]
  have hcoordinates : entries s b.coordinateFragments = [] := by
    rw [coordinateFragments]
    split
    · exact entries_nil s
    · rw [entries_wrap, entries_map_eq_nil s hring]
  have htexture : entries s b.texture.fragments = [] := by
    rw [Texture.fragments, entries_append, entries_append,
      entries_optionalText, entries_textElement, entries_unless]
    rfl
  rw [fragment, entries_wrap, entries_wrap, entries_append, htexture,
    entries_attributed s (by decide), hcoordinates]
  rfl

end Anonymous

/-! ## Geometries -/

/-- The identifiers of a polygon and its rings. -/
def Polygon.ids (p : Polygon) : List String :=
  p.id :: (p.exterior.toList ++ p.interiors).map Ring.id

mutual

/-- The identifiers of a geometry and of everything in it. -/
def Geometry.ids : Geometry → List String
  | ⟨id, _, _, polygons, lines, children, _⟩ =>
    id :: (polygons.flatMap Polygon.ids ++ lines.map Line.id ++
      Geometry.allIds children)

/-- The identifiers of some geometries and of everything in them. -/
def Geometry.allIds : List Geometry → List String
  | [] => []
  | g :: rest => g.ids ++ Geometry.allIds rest

end

section Geometries

open Fragment

variable (s : Settings)

theorem Position.entries_listFragments (vertices : List Position) :
    entries s (listFragments vertices) = [] := by
  rw [listFragments]
  split
  · exact entries_nil s
  · rw [entries_attributed s (by decide),
      entries_text]

theorem Ring.entries_fragment (r : Ring) :
    entries s [r.fragment] = ownEntry r.id := by
  rw [fragment, entries_identified s (by decide) (by decide),
    Position.entries_listFragments, List.append_nil]

theorem Line.entries_fragment (l : Line) :
    entries s [l.fragment] = ownEntry l.id := by
  rw [fragment, entries_identified s (by decide) (by decide),
    Position.entries_listFragments, List.append_nil]

theorem Polygon.entries_fragment (p : Polygon) :
    entries s [p.fragment] = p.ids.flatMap ownEntry := by
  rw [fragment, entries_identified s (by decide) (by decide), entries_append,
    entries_map, entries_map, ids, List.flatMap_cons, List.flatMap_map,
    List.flatMap_append]
  simp only [entries_wrap, Ring.entries_fragment]

theorem GeometryKind.elementName_ne_material (kind : GeometryKind) :
    kind.elementName ≠ "Material" := by
  cases kind <;> decide

theorem Geometry.entries_enclose (kind : GeometryKind)
    (content : List Fragment) :
    entries s (enclose kind content) = entries s content := by
  rw [enclose]
  split
  · exact entries_wrap s _ _ content
  · rfl

mutual

/-- A geometry is written with all its identifiers, in their order. -/
theorem Geometry.entries_fragment :
    ∀ g : Geometry, entries s [g.fragment] = g.ids.flatMap ownEntry
  | ⟨id, _, role, polygons, lines, children, _⟩ => by
    rw [fragment, entries_identified s (GeometryKind.plain_elementName _)
        (GeometryKind.elementName_ne_material _), entries_enclose,
      entries_append, entries_append, entries_map, entries_map,
      entries_fragments children, ids, List.flatMap_cons,
      List.flatMap_append, List.flatMap_append, List.flatMap_map,
      List.flatMap_assoc]
    simp only [entries_wrap, Polygon.entries_fragment, Line.entries_fragment]

theorem Geometry.entries_fragments : ∀ gs : List Geometry,
    entries s (fragments gs) = (Geometry.allIds gs).flatMap ownEntry
  | [] => rfl
  | g :: rest => by
    rw [fragments, entries_cons, entries_fragment g, entries_fragments rest,
      allIds, List.flatMap_append]

end

end Geometries

/-! ## Appearances -/

/-- The entry of a material, unless it has no identifier. -/
def Material.entries (s : Settings) (m : Material) :
    List (String × Option Node) :=
  if m.id.isEmpty then [] else [(m.id, some (m.fragment.toNode s))]

section Appearances

open Fragment

variable (s : Settings)

theorem Material.entries_colorFragments (name : String) (c : Color) :
    Fragment.entries s (colorFragments name c) = [] :=
  entries_unless s _ name .appearance c.text

theorem Material.entries_scalarFragments (name : String) (x : Single) :
    Fragment.entries s (scalarFragments name x) = [] :=
  entries_unless s _ name .appearance x.text

theorem Material.entries_fragment (m : Material) :
    Fragment.entries s [m.fragment] = m.entries s := by
  have hmaterial : (m.fragment.toNode s).isMaterial = true := by
    rw [fragment, toNode, Node.isMaterial, s.localName_qualify (by decide)]
    exact beq_self_eq_true "Material"
  rw [entries, fragment]
  by_cases hid : m.id.isEmpty = true
  · rw [identity, if_pos hid, if_pos hid, entries_element s List.not_mem_nil]
    simp only [entries_append, entries_colorFragments, entries_scalarFragments,
      entries_textElement, List.append_nil]
  · rw [identity, if_neg hid, if_neg hid, entries_element_eq]
    simp only [entries_append, entries_colorFragments, entries_scalarFragments,
      entries_textElement, List.append_nil]
    rw [fragment, identity, if_neg hid] at hmaterial
    rw [List.foldl_cons, List.foldl_nil, setAttribute, List.lookup_cons_self,
      Option.toList_some, List.map_singleton, Node.entry, hmaterial, if_pos rfl]

theorem MaterialBinding.entries_fragment (b : MaterialBinding) :
    Fragment.entries s [b.fragment] = b.material.entries s := by
  rw [fragment, entries_wrap, entries_cons, Material.entries_fragment,
    entries_attributed s (by decide), entries_nil, List.append_nil]

/-- A theme is entered with the materials that are written for it. -/
theorem ThemedAppearances.entries_themeFragment (t : ThemedAppearances)
    (theme : String) :
    Fragment.entries s [t.themeFragment theme] =
      (firsts (fun b : MaterialBinding => b.material.id)
        (t.materialsOf theme)).flatMap fun b => b.material.entries s := by
  rw [themeFragment, entries_wrap, entries_cons, entries_textElement,
    List.nil_append, entries_append, entries_map,
    entries_map_eq_nil s (TextureBinding.entries_fragment s), List.append_nil,
    markedMaterials, written_markFirst_nil]
  simp only [MaterialBinding.entries_fragment]

theorem ThemedAppearances.entries_fragments (t : ThemedAppearances) :
    Fragment.entries s t.fragments =
      t.themes.flatMap fun theme =>
        Fragment.entries s [t.themeFragment theme] := by
  rw [fragments]
  by_cases hempty : t.isEmpty = true
  · rw [if_pos hempty, Builder.themes_of_isEmpty hempty]
    rfl
  · rw [if_neg hempty, entries_wrap, entries_map]

/-- The entries for the materials of an object: for each theme those that are
bound for it, once. -/
def CityObject.materialEntries (object : CityObject) :
    List (String × Option Node) :=
  object.themes.flatMap fun theme =>
    (object.firstMaterials theme).flatMap fun b => b.material.entries s

theorem CityObject.entries_shownAppearances (o : Options) (isRoot : Bool)
    (object : CityObject) :
    Fragment.entries s (object.shownAppearances o isRoot).fragments =
      if isRoot && o.appearances then object.materialEntries s else [] := by
  rw [shownAppearances]
  split
  · rw [ThemedAppearances.entries_fragments, materialEntries, themes]
    simp only [ThemedAppearances.entries_themeFragment,
      ThemedAppearances.materialsOf_collect, firstMaterials]
  · rfl

end Appearances

/-! ## Objects -/

mutual

/-- The identifiers of an object and of everything in it. -/
def CityObject.ids : CityObject → List String
  | ⟨id, _, _, geometries, children, _, reference, coverage⟩ =>
    id :: (Geometry.allIds geometries ++ CityObject.allIds children ++
      reference.toList.map ExternalReference.id ++
      coverage.toList.map GridCoverage.id)

/-- The identifiers of some objects and of everything in them. -/
def CityObject.allIds : List CityObject → List String
  | [] => []
  | object :: rest => object.ids ++ CityObject.allIds rest

end

section Objects

open Fragment

variable (s : Settings)

theorem ExternalReference.entries_fragment (r : ExternalReference) :
    entries s [r.fragment] = ownEntry r.id := by
  have hobject : entries s r.objectFragments = [] := by
    have hcontent : entries s
        (r.object.toList.flatMap ExternalObject.fragments) = [] := by
      rw [entries_flatMap, List.flatMap_eq_nil_iff]
      intro object _
      cases object with
      | name text => exact entries_optionalText s "name" .core text
      | uri text => exact entries_optionalText s "uri" .core text
    rw [objectFragments]
    split
    · exact entries_nil s
    · rw [entries_wrap, hcontent]
  rw [fragment, entries_identified s (by decide) (by decide), entries_append,
    entries_optionalText, hobject, List.nil_append, List.append_nil]

theorem GridCoverage.entries_fragment (c : GridCoverage) :
    entries s [c.fragment] = ownEntry c.id := by
  rw [fragment, entries_identified s (by decide) (by decide), entries_ite,
    Envelope.entries_fragment, ite_self, List.append_nil]

theorem FeatureType.elementName_ne_material (type : FeatureType) :
    type.elementName ≠ "Material" := by
  have key : ∀ type ∈ all, type.elementName ≠ "Material" := by
    decide +kernel
  exact key type (mem_all type)

/-- An object is entered with its materials if it shows them, and otherwise
with what is written of its parts. -/
theorem CityObject.entries_fragment (declared : Namespace → Bool)
    (o : Options) (isRoot : Bool) (object : CityObject) :
    entries s [object.fragment declared o isRoot] =
      ownEntry object.id ++
        ((if isRoot && o.appearances then object.materialEntries s else []) ++
          ((object.geometries.filter
              (Geometry.hasPlace o object.type)).flatMap
                (fun g => g.ids.flatMap ownEntry) ++
            (entries s (childFragments declared o object.children) ++
              if o.externalReferences then
                (object.externalReference.toList.map ExternalReference.id ++
                  object.coverage.toList.map GridCoverage.id).flatMap ownEntry
              else []))) := by
  have hshown := object.entries_shownAppearances s o isRoot
  obtain ⟨id, type, attributes, geometries, children, address, reference,
    coverage⟩ := object
  have haddress : entries s (addressFragments o address) = [] := by
    rw [addressFragments, entries_ite, entries_map_eq_nil, ite_self]
    intro a
    rw [entries_wrap, Address.entries_fragment]
  have hreferences : entries s (referenceFragments o reference coverage) =
      if o.externalReferences then
        (reference.toList.map ExternalReference.id ++
          coverage.toList.map GridCoverage.id).flatMap ownEntry
      else [] := by
    rw [referenceFragments, entries_ite, entries_append, entries_map,
      entries_map, List.flatMap_append, List.flatMap_map, List.flatMap_map]
    simp only [ExternalReference.entries_fragment,
      GridCoverage.entries_fragment]
  rw [fragment, entries_identified s type.plain_elementName
    type.elementName_ne_material]
  simp only [entries_append, Attributes.entries_fragments, hshown,
    Geometry.flatMap_placedFragments, entries_map, Geometry.containerFragment,
    entries_wrap, Geometry.entries_fragment, haddress, hreferences,
    List.nil_append, List.append_assoc]

end Objects

end CityMarkup
