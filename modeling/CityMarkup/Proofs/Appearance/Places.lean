import CityMarkup.Proofs.Encoding.Recovery

/-!
# Where appearances stand

Of everything that is written for a model, only the appearances of a root
object belong to the appearance module.  They are one element at most, which
stands in the element of that object, and no element of that name stands
anywhere else, neither inside of it nor in the objects below.
-/

namespace CityMarkup

/-- Whether no element at any depth of some nodes has a given name. -/
def Node.NoneNamed (name : String) (nodes : List Node) : Prop :=
  ∀ element ∈ Node.allElements nodes, element.1 ≠ name

namespace Fragment

/-! ## Fragments that ask for no element of a name -/

/-- Whether some fragments ask for no element of a name at any depth. -/
def Lacks (name : String) (ns : Namespace) (fragments : List Fragment) :
    Prop :=
  ∀ r ∈ allRequests fragments, ¬(r.name = name ∧ r.ns = ns)

variable {name : String} {ns : Namespace}

theorem lacks_nil : Lacks name ns [] := by
  intro r hr
  rw [allRequests] at hr
  cases hr

theorem lacks_text_cons {value : String} {rest : List Fragment} :
    Lacks name ns (.text value :: rest) ↔ Lacks name ns rest := by
  rw [Lacks, Lacks, allRequests, requests, List.nil_append]

theorem lacks_element_cons {found : String} {other : Namespace}
    {attributes : List (String × String)} {content rest : List Fragment} :
    Lacks name ns (.element found other attributes content :: rest) ↔
      ¬(found = name ∧ other = ns) ∧ Lacks name ns content ∧
        Lacks name ns rest := by
  rw [Lacks, Lacks, Lacks, allRequests, requests, List.cons_append,
    List.forall_mem_cons, List.forall_mem_append]

theorem lacks_append {first second : List Fragment} :
    Lacks name ns (first ++ second) ↔
      Lacks name ns first ∧ Lacks name ns second := by
  rw [Lacks, Lacks, Lacks, allRequests_eq_flatMap, allRequests_eq_flatMap,
    allRequests_eq_flatMap, List.flatMap_append, List.forall_mem_append]

theorem lacks_map {α : Type} {f : α → Fragment}
    (h : ∀ a, Lacks name ns [f a]) (l : List α) :
    Lacks name ns (l.map f) := by
  induction l with
  | nil => exact lacks_nil
  | cons a rest ih =>
      rw [List.map_cons, ← List.singleton_append, lacks_append]
      exact ⟨h a, ih⟩

theorem lacks_ite_not {condition : Prop} [Decidable condition]
    {fragments : List Fragment} (h : Lacks name ns fragments) :
    Lacks name ns (if condition then [] else fragments) := by
  split
  · exact lacks_nil
  · exact h

/-- Where all requests are sound, what is not asked for is not written. -/
theorem Lacks.noneNamed {s : Settings} {short written : String}
    {fragments : List Fragment} (h : Lacks name ns fragments)
    (hshort : ns.abbreviation = some short)
    (hwritten : short ++ ":" ++ name = written)
    (hsound : AllSound s.isDeclared fragments) :
    Node.NoneNamed written (toNodes s fragments) := by
  intro element helement
  rw [allElements_toNodes] at helement
  obtain ⟨r, hr, rfl⟩ := List.mem_map.mp helement
  have hne := qualify_ne_of_isSound (hsound.of_mem_requests hr) hshort (h r hr)
  rw [hwritten] at hne
  exact hne

end Fragment

/-! ## Outside of the appearance module -/

/-- All namespaces but that of the appearance module. -/
def Namespace.otherThanAppearance (ns : Namespace) : Bool :=
  ns != .appearance

section Outside

open Fragment Request Namespace

variable (declared : Namespace → Bool) (o : Options)

/-- What gets by without the appearance module has no element of it. -/
theorem Fragment.AllSound.lacks {fragments : List Fragment}
    (h : AllSound otherThanAppearance fragments) (name : String) :
    Lacks name .appearance fragments := by
  rintro r hr ⟨-, hns⟩
  have hcovered := (h.of_mem_requests hr).covered
  rw [hns, if_neg (by decide)] at hcovered
  revert hcovered
  decide

theorem thematicModule_ne_appearance (type : FeatureType) :
    type.thematicModule ≠ .appearance := by
  have key : ∀ type ∈ FeatureType.all,
      type.thematicModule ≠ .appearance := by
    decide +kernel
  exact key type (FeatureType.mem_all type)

theorem isBound_thematicModule (type : FeatureType) :
    type.thematicModule.IsBound otherThanAppearance :=
  ⟨type.thematicModule_ne, bne_iff_ne.mpr (thematicModule_ne_appearance type)⟩

theorem Attributes.isOutside_fragments (attributes : Attributes)
    (generic : Bool) :
    AllSound otherThanAppearance (attributes.fragments declared generic) := by
  have hknown : ∀ known ∈ KnownAttribute.all,
      otherThanAppearance known.ns = true := by
    decide +kernel
  refine allSound_flatMap fun entry _ => ?_
  rw [entryFragments]
  split
  · rename_i known hlookup
    obtain ⟨hfound, -⟩ := Option.filter_eq_some_iff.mp hlookup
    have hmem := List.mem_of_find?_eq_some hfound
    obtain ⟨hplain, hne⟩ := KnownAttribute.plain_of_mem hmem
    refine allSound_singleton ?_
    exact isSound_textElement hplain ⟨hne, hknown known hmem⟩ entry.2.text
  · apply allSound_ite
    refine allSound_singleton ?_
    exact entry.2.isSound_genericFragment ⟨by decide, by decide⟩ entry.1

namespace CityObject

theorem isOutside_geometries (type : FeatureType)
    (geometries : List Geometry) :
    AllSound otherThanAppearance
      (geometries.flatMap (Geometry.placedFragments o type)) :=
  allSound_flatMap fun g _ => g.allSound_placedFragments
    ⟨by decide, by decide⟩ (isBound_thematicModule type) o

theorem isOutside_address (address : Option Address) :
    AllSound otherThanAppearance (addressFragments o address) := by
  apply allSound_ite
  refine allSound_map fun a _ => ?_
  refine isSound_wrap rfl ⟨by decide, by decide⟩ (allSound_singleton ?_)
  exact a.isSound_fragment ⟨by decide, by decide⟩

theorem isOutside_references (reference : Option ExternalReference)
    (coverage : Option GridCoverage) :
    AllSound otherThanAppearance (referenceFragments o reference coverage) :=
  allSound_referenceFragments ⟨by decide, by decide⟩ ⟨by decide, by decide⟩ o
    reference coverage

mutual

/-- An object that is no root gets by without the appearance module, and so
does everything below it. -/
theorem isOutside_fragment : ∀ object : CityObject,
    (object.fragment declared o false).IsSound otherThanAppearance
  | ⟨id, type, attributes, geometries, children, address, reference,
      coverage⟩ => by
    rw [fragment]
    refine isSound_identified type.plain_elementName
      (isBound_thematicModule type) id ?_
    simp only [allSound_append]
    refine ⟨⟨⟨⟨⟨?_, ?_⟩, ?_⟩, ?_⟩, ?_⟩, ?_⟩
    · exact attributes.isOutside_fragments declared o.genericAttributes
    · exact allSound_nil
    · exact isOutside_geometries o type geometries
    · exact isOutside_childFragments children
    · exact isOutside_address o address
    · exact isOutside_references o reference coverage

theorem isOutside_childFragments : ∀ children : List CityObject,
    AllSound otherThanAppearance (childFragments declared o children)
  | [] => by
    rw [childFragments]
    exact allSound_nil
  | child :: rest => by
    rw [childFragments]
    refine .cons ?_ (isOutside_childFragments rest)
    refine isSound_wrap rfl ⟨by decide, by decide⟩ (allSound_singleton ?_)
    exact isOutside_fragment child

end

end CityObject

end Outside

/-! ## Inside of the appearance module -/

section Inside

open Fragment

variable {name : String}

theorem lacks_textElement {found : String} (h : found ≠ name)
    (value : String) :
    Lacks name .appearance [.textElement found .appearance value] := by
  rw [textElement, lacks_element_cons, lacks_text_cons]
  exact ⟨fun hfound => h hfound.1, lacks_nil, lacks_nil⟩

/-- The names of the elements that describe materials and textures. -/
def surfaceDataNames : List String :=
  ["Material", "diffuseColor", "specularColor", "ambientIntensity",
    "emissiveColor", "shininess", "transparency", "isSmooth", "imageURI",
    "wrapMode", "borderColor", "TexCoordList", "textureCoordinates"]

theorem Material.lacks_colorFragments {found : String} (h : found ≠ name)
    (c : Color) : Lacks name .appearance (colorFragments found c) :=
  lacks_ite_not (lacks_textElement h c.text)

theorem Material.lacks_scalarFragments {found : String} (h : found ≠ name)
    (x : Single) : Lacks name .appearance (scalarFragments found x) :=
  lacks_ite_not (lacks_textElement h x.text)

section SurfaceData

variable (h : name ∉ surfaceDataNames)
include h

theorem ne_of_mem_surfaceDataNames :
    ∀ found ∈ surfaceDataNames, found ≠ name := by
  rintro found hfound rfl
  exact h hfound

theorem Material.lacks_fragment (m : Material) :
    Lacks name .appearance [m.fragment] := by
  have hne := ne_of_mem_surfaceDataNames h
  rw [fragment]
  simp only [lacks_element_cons, lacks_append]
  refine ⟨fun hfound => hne _ (by decide) hfound.1,
    ⟨⟨⟨⟨⟨⟨?_, ?_⟩, ?_⟩, ?_⟩, ?_⟩, ?_⟩, ?_⟩, lacks_nil⟩
  · exact lacks_colorFragments (hne _ (by decide)) _
  · exact lacks_colorFragments (hne _ (by decide)) _
  · exact lacks_scalarFragments (hne _ (by decide)) _
  · exact lacks_colorFragments (hne _ (by decide)) _
  · exact lacks_scalarFragments (hne _ (by decide)) _
  · exact lacks_scalarFragments (hne _ (by decide)) _
  · exact lacks_textElement (hne _ (by decide)) _

theorem Texture.lacks_fragments (t : Texture) :
    Lacks name .appearance t.fragments := by
  have hne := ne_of_mem_surfaceDataNames h
  rw [fragments, lacks_append, lacks_append]
  refine ⟨⟨?_, ?_⟩, ?_⟩
  · exact lacks_ite_not (lacks_textElement (hne _ (by decide)) _)
  · exact lacks_textElement (hne _ (by decide)) _
  · exact lacks_ite_not (lacks_textElement (hne _ (by decide)) _)

theorem TextureBinding.lacks_coordinateFragments (b : TextureBinding) :
    Lacks name .appearance b.coordinateFragments := by
  have hne := ne_of_mem_surfaceDataNames h
  have hring : ∀ c : RingCoordinates,
      Lacks name .appearance [c.fragment] := by
    intro c
    rw [RingCoordinates.fragment, lacks_element_cons, lacks_text_cons]
    exact ⟨fun hfound => hne _ (by decide) hfound.1, lacks_nil, lacks_nil⟩
  apply lacks_ite_not
  rw [wrap, lacks_element_cons]
  exact ⟨fun hfound => hne _ (by decide) hfound.1, lacks_map hring _,
    lacks_nil⟩

end SurfaceData

theorem MaterialBinding.lacks_fragment (b : MaterialBinding) :
    Lacks "appearance" .appearance [b.fragment] := by
  have hmaterial := b.material.lacks_fragment
    (by decide : "appearance" ∉ surfaceDataNames)
  rw [fragment, wrap, lacks_element_cons, ← List.singleton_append,
    lacks_append, lacks_element_cons]
  exact ⟨by decide, ⟨hmaterial, by decide, lacks_nil, lacks_nil⟩, lacks_nil⟩

theorem TextureBinding.lacks_fragment (b : TextureBinding) :
    Lacks "appearance" .appearance [b.fragment] := by
  have hnot : "appearance" ∉ surfaceDataNames := by decide
  have htexture := b.texture.lacks_fragments hnot
  have hcoordinates := b.lacks_coordinateFragments hnot
  rw [fragment, wrap, wrap]
  simp only [lacks_element_cons, lacks_append]
  exact ⟨by decide, ⟨by decide, ⟨htexture, by decide, hcoordinates, lacks_nil⟩,
    lacks_nil⟩, lacks_nil⟩

/-- The appearances of an object are not nested in each other. -/
theorem ThemedAppearances.lacks_themes (t : ThemedAppearances) :
    Lacks "appearance" .appearance (t.themes.map t.themeFragment) := by
  refine lacks_map (fun theme => ?_) t.themes
  rw [themeFragment, wrap, lacks_element_cons, ← List.singleton_append,
    lacks_append, lacks_append]
  refine ⟨by decide, ⟨lacks_textElement (by decide) theme, ?_, ?_⟩, lacks_nil⟩
  · exact lacks_map MaterialBinding.lacks_fragment _
  · exact lacks_map TextureBinding.lacks_fragment _

end Inside

end CityMarkup
