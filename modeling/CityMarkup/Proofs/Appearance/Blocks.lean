import CityMarkup.Proofs.Appearance.Collection
import CityMarkup.Proofs.Appearance.Places
import CityMarkup.Proofs.Appearance.Repetition

/-!
# The appearances of root objects

In the document of a model each root object shows the materials that are bound
anywhere in it, by theme and in the order of the visit.  Within a theme a
material is written for its first binding, with the target of that binding, and
each later binding of it is reported once.
-/

namespace CityMarkup

/-! ## Members of a theme -/

theorem Settings.qualify_appearance {s : Settings}
    (h : s.isDeclared .appearance = true) (name : String) :
    s.qualify name .appearance = "app:" ++ name := by
  have hcolon : "app" ++ ":" = "app:" := by decide
  rw [qualify_of_isDeclared rfl h, hcolon]

/-- The node for a material binding: the material and then the target of the
binding. -/
def MaterialBinding.member (s : Settings) (b : MaterialBinding) : Node :=
  .element "app:surfaceDataMember" []
    [b.material.fragment.toNode s,
      .element "app:target" [("uri", "#" ++ b.target)] []]

/-- The node for a texture binding: the texture, which ends with the target of
the binding. -/
def TextureBinding.member (s : Settings) (b : TextureBinding) : Node :=
  .element "app:surfaceDataMember" []
    [.element "app:ParameterizedTexture" []
      (Fragment.toNodes s b.texture.fragments ++
        [.element "app:target" [("uri", "#" ++ b.target)]
          (Fragment.toNodes s b.coordinateFragments)])]

section Members

variable {s : Settings} (h : s.isDeclared .appearance = true)
include h

theorem MaterialBinding.toNode_fragment (b : MaterialBinding) :
    b.fragment.toNode s = b.member s := by
  have hmember : "app:" ++ "surfaceDataMember" = "app:surfaceDataMember" := by
    decide +kernel
  have htarget : "app:" ++ "target" = "app:target" := by decide
  rw [fragment, Fragment.wrap, Fragment.toNode, Fragment.toNodes,
    Fragment.toNodes, Fragment.toNodes, Fragment.toNode, Fragment.toNodes,
    Settings.qualify_appearance h, Settings.qualify_appearance h, hmember,
    htarget]
  rfl

theorem TextureBinding.toNode_fragment (b : TextureBinding) :
    b.fragment.toNode s = b.member s := by
  have hmember : "app:" ++ "surfaceDataMember" = "app:surfaceDataMember" := by
    decide +kernel
  have htexture : "app:" ++ "ParameterizedTexture" =
      "app:ParameterizedTexture" := by
    decide +kernel
  have htarget : "app:" ++ "target" = "app:target" := by decide
  rw [fragment, Fragment.wrap, Fragment.wrap, Fragment.toNode,
    Fragment.toNodes, Fragment.toNodes, Fragment.toNode,
    Fragment.toNodes_append, Fragment.toNodes, Fragment.toNodes,
    Fragment.toNode, Settings.qualify_appearance h,
    Settings.qualify_appearance h, Settings.qualify_appearance h, hmember,
    htexture, htarget]
  rfl

end Members

/-- The node for a theme: its name, some materials, and some textures. -/
def themeNode (s : Settings) (theme : String)
    (materials : List MaterialBinding) (textures : List TextureBinding) :
    Node :=
  .element "app:Appearance" []
    (.element "app:theme" [] [.text theme] ::
      (materials.map (MaterialBinding.member s) ++
        textures.map (TextureBinding.member s)))

theorem ThemedAppearances.toNode_themeFragment {s : Settings}
    (h : s.isDeclared .appearance = true) (t : ThemedAppearances)
    (theme : String) :
    (t.themeFragment theme).toNode s =
      themeNode s theme (written (t.markedMaterials theme))
        (written (t.markedTextures theme)) := by
  have hblock : "app:" ++ "Appearance" = "app:Appearance" := by decide
  have htheme : "app:" ++ "theme" = "app:theme" := by decide
  rw [themeFragment, Fragment.wrap, Fragment.toNode, Fragment.toNodes,
    Fragment.textElement, Fragment.toNode, Fragment.toNodes_append,
    Settings.qualify_appearance h, Settings.qualify_appearance h, hblock,
    htheme, themeNode]
  simp only [Fragment.toNodes_eq_map, List.map_map, Function.comp_def,
    MaterialBinding.toNode_fragment h, TextureBinding.toNode_fragment h]
  rfl

/-! ## The block of an object -/

namespace CityObject

/-- The first binding of each material for a theme. -/
def firstMaterials (object : CityObject) (theme : String) :
    List MaterialBinding :=
  firsts (fun b => b.material.id) (object.materialsFor theme)

/-- The later bindings of the materials for a theme. -/
def laterMaterials (object : CityObject) (theme : String) :
    List MaterialBinding :=
  repetitions (fun b => b.material.id) (object.materialsFor theme)

/-- The themes that an object is written with. -/
def themes (object : CityObject) : List String :=
  (ThemedAppearances.collect object).themes

/-- The themes are all that an object uses, in the order of their bytes. -/
structure HasThemes (object : CityObject) (themes : List String) : Prop where
  ascending : themes.Pairwise fun a b =>
    Utf8.encode a.toList < Utf8.encode b.toList
  used : ∀ theme, theme ∈ themes ↔ object.Uses theme

theorem hasThemes_themes (object : CityObject) :
    object.HasThemes object.themes where
  ascending := ThemedAppearances.ascending_bytes_themes _
  used := fun _ => ThemedAppearances.mem_themes_collect

/-- Nodes show the materials of an object: for each theme their first bindings,
and after these some textures. -/
def IsBlock (s : Settings) (object : CityObject) (content : List Node) :
    Prop :=
  ∃ textures : String → List TextureBinding,
    content = object.themes.map fun theme =>
      themeNode s theme (object.firstMaterials theme) (textures theme)

theorem written_markedMaterials (object : CityObject) (theme : String) :
    ThemedAppearances.written
        ((ThemedAppearances.collect object).markedMaterials theme) =
      object.firstMaterials theme := by
  rw [ThemedAppearances.markedMaterials,
    ThemedAppearances.written_markFirst_nil,
    ThemedAppearances.materialsOf_collect, firstMaterials]

theorem repeated_markedMaterials (object : CityObject) (theme : String) :
    ThemedAppearances.repeated
        ((ThemedAppearances.collect object).markedMaterials theme) =
      object.laterMaterials theme := by
  rw [ThemedAppearances.markedMaterials,
    ThemedAppearances.repeated_markFirst_nil,
    ThemedAppearances.materialsOf_collect, laterMaterials]

theorem isBlock_themes {s : Settings} (h : s.isDeclared .appearance = true)
    (object : CityObject) :
    object.IsBlock s (Fragment.toNodes s
      ((ThemedAppearances.collect object).themes.map
        (ThemedAppearances.collect object).themeFragment)) := by
  refine ⟨fun theme => ThemedAppearances.written
    ((ThemedAppearances.collect object).markedTextures theme), ?_⟩
  rw [themes, Fragment.toNodes_eq_map, List.map_map]
  simp only [Function.comp_def, ThemedAppearances.toNode_themeFragment h,
    written_markedMaterials]

/-- A member of a model shows the appearances of its object: in at most one
element, which stands in the element of the object, if the options ask for it
and something is bound anywhere in the object. -/
def Shows (s : Settings) (o : Options) (object : CityObject) (member : Node) :
    Prop :=
  ∃ (name : String) (attributes : List (String × String))
      (before shown after : List Node),
    member = .element "core:cityObjectMember" []
      [.element name attributes (before ++ shown ++ after)] ∧
    name ≠ "app:appearance" ∧
    Node.NoneNamed "app:appearance" before ∧
    Node.NoneNamed "app:appearance" after ∧
    (shown = [] ↔
      o.appearances = false ∨ ∀ b ∈ object.targets, b.isEmpty = true) ∧
    (shown ≠ [] → ∃ content,
      shown = [.element "app:appearance" [] content] ∧
      Node.NoneNamed "app:appearance" content ∧ object.IsBlock s content)

theorem isEmpty_shownAppearances_iff (o : Options) (object : CityObject) :
    (object.shownAppearances o true).isEmpty = true ↔
      o.appearances = false ∨ ∀ b ∈ object.targets, b.isEmpty = true := by
  rw [shownAppearances, Bool.true_and]
  cases happearances : o.appearances with
  | false =>
      constructor
      · intro _
        exact Or.inl rfl
      · intro _
        rfl
  | true =>
      rw [if_pos rfl, ThemedAppearances.isEmpty_collect, List.all_eq_true]
      constructor
      · intro hempty
        exact Or.inr hempty
      · rintro (hfalse | hempty)
        · cases hfalse
        · exact hempty

/-- What is shown is nothing, or one element with the materials by theme. -/
theorem toNodes_shownAppearances {s : Settings} {o : Options}
    {object : CityObject} (h : s.isDeclared .appearance = true)
    (hsome : ¬(object.shownAppearances o true).isEmpty = true) :
    ∃ content,
      Fragment.toNodes s (object.shownAppearances o true).fragments =
        [.element "app:appearance" [] content] ∧
      Node.NoneNamed "app:appearance" content ∧ object.IsBlock s content := by
  have hname : "app:" ++ "appearance" = "app:appearance" := by decide
  have hwritten : "app" ++ ":" ++ "appearance" = "app:appearance" := by decide
  have hcollect : object.shownAppearances o true = .collect object := by
    rw [shownAppearances] at hsome ⊢
    split at hsome
    · rename_i hshown
      rw [if_pos hshown]
    · exact absurd rfl hsome
  rw [hcollect] at hsome ⊢
  have hbound : Namespace.IsBound s.isDeclared .appearance := ⟨by decide, h⟩
  have hsound := ThemedAppearances.allSound_fragments hbound (.collect object)
  rw [ThemedAppearances.fragments, if_neg hsome] at hsound ⊢
  have hcontent := (hsound _ List.mem_cons_self).content
  refine ⟨_, ?_, (ThemedAppearances.lacks_themes _).noneNamed rfl hwritten
    hcontent, object.isBlock_themes h⟩
  rw [Fragment.toNodes, Fragment.toNodes, Fragment.wrap, Fragment.toNode,
    Settings.qualify_appearance h, hname]
  rfl

theorem toNodes_fragments_eq_nil_iff (s : Settings) (t : ThemedAppearances) :
    Fragment.toNodes s t.fragments = [] ↔ t.isEmpty = true := by
  rw [ThemedAppearances.fragments]
  cases t.isEmpty with
  | true => simp [Fragment.toNodes]
  | false => simp [Fragment.toNodes]

/-- The member for an object, taken apart at its appearances. -/
theorem toNode_memberFragment {s : Settings}
    (hcore : s.isDeclared .core = true) (o : Options) (object : CityObject) :
    (CityModel.memberFragment s.isDeclared o object).toNode s =
      .element "core:cityObjectMember" []
        [.element (s.qualify object.type.elementName object.type.thematicModule)
          ((Fragment.identity object.id).foldl
            (fun l a => setAttribute a.1 a.2 l) [])
          (Fragment.toNodes s
              (object.attributes.fragments s.isDeclared o.genericAttributes) ++
            Fragment.toNodes s (object.shownAppearances o true).fragments ++
            Fragment.toNodes s
              (object.geometries.flatMap
                  (Geometry.placedFragments o object.type) ++
                childFragments s.isDeclared o object.children ++
                addressFragments o object.address ++
                referenceFragments o object.externalReference
                  object.coverage))] := by
  obtain ⟨id, type, attributes, geometries, children, address, reference,
    coverage⟩ := object
  rw [CityModel.memberFragment, Fragment.wrap, Fragment.toNode,
    Fragment.toNodes, Fragment.toNodes, fragment, Fragment.toNode,
    Settings.qualify_of_isDeclared rfl hcore, member_name]
  simp only [Fragment.toNodes_append, List.append_assoc, List.foldl_nil]

theorem isOutside_rest (declared : Namespace → Bool) (o : Options)
    (object : CityObject) :
    Fragment.AllSound Namespace.otherThanAppearance
      (object.geometries.flatMap (Geometry.placedFragments o object.type) ++
        childFragments declared o object.children ++
        addressFragments o object.address ++
        referenceFragments o object.externalReference object.coverage) := by
  simp only [Fragment.allSound_append]
  refine ⟨⟨⟨?_, ?_⟩, ?_⟩, ?_⟩
  · exact isOutside_geometries o object.type object.geometries
  · exact isOutside_childFragments declared o object.children
  · exact isOutside_address o object.address
  · exact isOutside_references o object.externalReference object.coverage

theorem qualify_elementName_ne {s : Settings} {object : CityObject}
    (h : DeclaresFor s.isDeclared object.subtree) (o : Options) :
    s.qualify object.type.elementName object.type.thematicModule ≠
      "app:appearance" := by
  have hwritten : "app" ++ ":" ++ "appearance" = "app:appearance" := by decide
  have hrequest : Request.IsSound s.isDeclared ⟨object.type.elementName,
      object.type.thematicModule, Fragment.identity object.id⟩ := by
    apply object.isSound_fragment o true h
    cases object
    rw [fragment, Fragment.requests]
    exact List.mem_cons_self
  have hother : ¬(object.type.elementName = "appearance" ∧
      object.type.thematicModule = .appearance) :=
    fun hboth => thematicModule_ne_appearance object.type hboth.2
  rw [← hwritten]
  exact Fragment.qualify_ne_of_isSound hrequest rfl hother

theorem shows_memberFragment {s : Settings} {object : CityObject}
    (h : DeclaresFor s.isDeclared object.subtree) (o : Options) :
    object.Shows s o
      ((CityModel.memberFragment s.isDeclared o object).toNode s) := by
  have happearance := h.always .appearance (by decide)
  have hcore := h.always .core (by decide)
  have hwritten : "app" ++ ":" ++ "appearance" = "app:appearance" := by decide
  have hsound := object.isSound_fragment o true h
  have hcontent : Fragment.AllSound s.isDeclared
      (object.attributes.fragments s.isDeclared o.genericAttributes ++
        (object.shownAppearances o true).fragments ++
        (object.geometries.flatMap (Geometry.placedFragments o object.type) ++
          childFragments s.isDeclared o object.children ++
          addressFragments o object.address ++
          referenceFragments o object.externalReference
            object.coverage)) := by
    cases object
    rw [fragment] at hsound
    simpa only [List.append_assoc] using hsound.content
  obtain ⟨hleading, hafter⟩ := Fragment.allSound_append.mp hcontent
  obtain ⟨hbefore, -⟩ := Fragment.allSound_append.mp hleading
  refine ⟨_, _, _, _, _, toNode_memberFragment hcore o object,
    qualify_elementName_ne h o, ?_, ?_, ?_, ?_⟩
  · have hlacks := (object.attributes.isOutside_fragments s.isDeclared
      o.genericAttributes).lacks "appearance"
    exact hlacks.noneNamed rfl hwritten hbefore
  · have hlacks := (object.isOutside_rest s.isDeclared o).lacks "appearance"
    exact hlacks.noneNamed rfl hwritten hafter
  · rw [toNodes_fragments_eq_nil_iff]
    exact isEmpty_shownAppearances_iff o object
  · intro hsome
    rw [Ne, toNodes_fragments_eq_nil_iff] at hsome
    exact toNodes_shownAppearances happearance hsome

end CityObject

end CityMarkup
