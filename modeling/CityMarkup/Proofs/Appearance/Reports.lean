import CityMarkup.Proofs.Appearance.Blocks
import CityMarkup.Proofs.Encoding.Nodes

/-!
# Encoded appearances

Encoding a model shows the materials of each root object and reports each
binding that repeats a material of its theme, and no other, once and in the
order of the visit.
-/

namespace CityMarkup

/-- The material and the theme of a notice about a repeated material. -/
def Notice.repeatedMaterial? : Notice → Option (String × String)
  | .materialRepeated material theme => some (material, theme)
  | _ => none

namespace CityObject

/-- What is reported for the appearances of an object: each material that is
bound again for a theme, by theme and in the order of the visit. -/
def repeatedMaterials (object : CityObject) : List (String × String) :=
  object.themes.flatMap fun theme =>
    (object.laterMaterials theme).map fun b => (b.material.id, theme)

theorem filterMap_collect (object : CityObject) :
    (ThemedAppearances.collect object).notices.filterMap
      Notice.repeatedMaterial? = object.repeatedMaterials := by
  rw [ThemedAppearances.notices, repeatedMaterials, themes,
    List.filterMap_flatMap]
  congr 1
  funext theme
  rw [ThemedAppearances.themeNotices, repeated_markedMaterials,
    List.filterMap_append, List.filterMap_map, List.filterMap_map]
  simp [Function.comp_def, Notice.repeatedMaterial?]

theorem filterMap_placementNotices (o : Options) (type : FeatureType)
    (objectId : String) (g : Geometry) :
    (g.placementNotices o type objectId).filterMap
      Notice.repeatedMaterial? = [] := by
  rw [Geometry.placementNotices]
  cases g.placement o type with
  | held name => rfl
  | empty => rfl
  | noContainer => rfl

mutual

/-- Repeated materials are reported with the appearances of an object only. -/
theorem filterMap_notices (o : Options) :
    ∀ (isRoot : Bool) (object : CityObject),
      (object.notices o isRoot).filterMap Notice.repeatedMaterial? =
        (object.shownAppearances o isRoot).notices.filterMap
          Notice.repeatedMaterial?
  | isRoot, ⟨id, type, attributes, geometries, children, address, reference,
      coverage⟩ => by
    have hgeometries : (geometries.flatMap
        (Geometry.placementNotices o type id)).filterMap
        Notice.repeatedMaterial? = [] := by
      rw [List.filterMap_flatMap, List.flatMap_eq_nil_iff]
      intro g _
      exact filterMap_placementNotices o type id g
    rw [notices, List.filterMap_append, List.filterMap_append, hgeometries,
      filterMap_childNotices o children, List.append_nil, List.append_nil]

theorem filterMap_childNotices (o : Options) : ∀ children : List CityObject,
    (childNotices o children).filterMap Notice.repeatedMaterial? = []
  | [] => by
    rw [childNotices]
    rfl
  | child :: rest => by
    rw [childNotices, List.filterMap_append, filterMap_notices o false child,
      filterMap_childNotices o rest]
    rfl

end

theorem filterMap_notices_root (o : Options) (object : CityObject) :
    (object.notices o true).filterMap Notice.repeatedMaterial? =
      if o.appearances then object.repeatedMaterials else [] := by
  rw [filterMap_notices, shownAppearances, Bool.true_and]
  cases o.appearances with
  | false => rfl
  | true => exact object.filterMap_collect

end CityObject

namespace CityModel

theorem filterMap_notices (o : Options) (m : CityModel) :
    (m.notices o).filterMap Notice.repeatedMaterial? =
      if o.appearances then m.objects.flatMap CityObject.repeatedMaterials
      else [] := by
  have hextent : (if m.envelope.isDefined then [] else
      [Notice.envelopeLeftOut]).filterMap Notice.repeatedMaterial? = [] := by
    cases m.envelope.isDefined with
    | true => rfl
    | false => rfl
  rw [notices, List.filterMap_append, List.filterMap_append, hextent,
    List.filterMap_flatMap]
  simp only [CityObject.filterMap_notices_root]
  cases o.appearances with
  | true => simp [Notice.repeatedMaterial?]
  | false => simp [Notice.repeatedMaterial?]

/-- The members of a model show the appearances of its objects. -/
theorem forall₂_shows (o : Options) (m : CityModel) :
    List.Forall₂ (CityObject.Shows (m.settings o) o) m.objects
      (Fragment.toNodes (m.settings o)
        (m.objects.map (memberFragment (m.settings o).isDeclared o))) := by
  apply Fragment.forall₂_toNodes_map
  intro object hobject
  apply CityObject.shows_memberFragment
  exact (declaresFor_settings o m).mono
    (CityObject.subtree_subset_forest hobject)

/-- What stands before the members has no appearances. -/
theorem noneNamed_leading (o : Options) (m : CityModel) :
    Node.NoneNamed "app:appearance" (Fragment.toNodes (m.settings o)
      (m.attributes.fragments (m.settings o).isDeclared o.genericAttributes ++
        if m.envelope.isDefined then [m.envelope.fragment] else [])) := by
  have houtside : Fragment.AllSound Namespace.otherThanAppearance
      (m.attributes.fragments (m.settings o).isDeclared o.genericAttributes ++
        if m.envelope.isDefined then [m.envelope.fragment] else []) := by
    apply (m.attributes.isOutside_fragments _ _).append
    apply Fragment.allSound_ite
    apply Fragment.allSound_singleton
    exact m.envelope.isSound_fragment ⟨by decide, by decide⟩
  have hsound := allSound_fragments o m
  rw [fragments, Fragment.allSound_append] at hsound
  exact (houtside.lacks "appearance").noneNamed rfl (by decide) hsound.1

end CityModel

theorem Material.exists_toNode_fragment {s : Settings}
    (h : s.isDeclared .appearance = true) (material : Material) :
    ∃ content, material.fragment.toNode s =
      .element "app:Material" (Fragment.identity material.id) content := by
  have hname : "app:" ++ "Material" = "app:Material" := by decide
  rw [fragment, Fragment.toNode_identified, Settings.qualify_appearance h,
    hname]
  exact ⟨_, rfl⟩

/-- With valid options encoding a model succeeds and shows the appearances of
its objects, each in the member of the object, and nowhere else an element of
that name.  Each binding of a material that repeats one of its theme gives one
notice on the lowest level. -/
theorem Writer.encode_shows (w : Writer) (m : CityModel)
    (hvalid : w.options.validate = .ok ()) :
    ((encode m).run w).result = .ok () ∧
    ∃ (root : OpenElement) (leading members : List Node),
      ((encode m).run w).state.builder.stack = [root] ∧
      root.name ≠ "app:appearance" ∧
      root.children = leading ++ members ∧
      Node.NoneNamed "app:appearance" leading ∧
      List.Forall₂ (CityObject.Shows (m.settings w.options) w.options)
        m.objects members ∧
      (∀ object ∈ m.objects, object.HasThemes object.themes) ∧
      (∀ material : Material, ∃ content,
        material.fragment.toNode (m.settings w.options) =
          .element "app:Material" (Fragment.identity material.id) content) ∧
      ((encode m).run w).notices.filterMap Notice.repeatedMaterial? =
        (if w.options.appearances then
          m.objects.flatMap CityObject.repeatedMaterials
        else
          []) ∧
      ∀ notice : Notice, notice.repeatedMaterial?.isSome = true →
        notice.level = .trace := by
  have h : ((encode m).run w).result = .ok () := by
    rw [result_encode]
    exact hvalid
  have hdeclared := (m.declaresFor_settings w.options).always .appearance
    (by decide)
  refine ⟨h, m.encodedRoot w.options, _, _, ?_, ?_, ?_,
    m.noneNamed_leading w.options, m.forall₂_shows w.options, ?_, ?_, ?_, ?_⟩
  · rw [state_encode h]
    rfl
  · have hname : (m.encodedRoot w.options).name = "CityModel" :=
      Settings.qualify_cityGml (m.settings w.options) "CityModel"
    rw [hname]
    decide
  · rw [← Fragment.toNodes_append]
    rfl
  · intro object _
    exact object.hasThemes_themes
  · exact Material.exists_toNode_fragment hdeclared
  · rw [run_encode_ok hvalid]
    exact m.filterMap_notices w.options
  · intro notice hnotice
    cases notice with
    | materialRepeated material theme => rfl
    | _ => cases hnotice

/-- A material that is told apart from others by its identifier only. -/
def Material.plain (id : String) : Material :=
  ⟨id, [], .black, .black, .black, .zero, .zero, .zero, false⟩

/-- A house whose roof and one polygon of the roof share a material. -/
def CityModel.painted : CityModel :=
  let bound : Bindings := Bindings.empty.addMaterial "summer" .front
    ⟨"roof", .plain "tiles"⟩
  let twice : Bindings := (Bindings.empty.addMaterial "summer" .front
    ⟨"left", .plain "tiles"⟩).addMaterial "winter" .back
      ⟨"left", .plain "snow"⟩
  ⟨"", none, .unset, .empty,
    [⟨"house", .building, .empty,
      [⟨"roof", 2, .roof, [⟨"left", none, [], twice⟩], [], [], bound⟩], [],
      none, none, none⟩]⟩

theorem Writer.encode_shows_painted :
    ∃ (house : CityObject) (leading : List Node) (member : Node),
      CityModel.painted.objects = [house] ∧
      (∃ root, ((encode .painted).run (.new .standard)).state.builder.stack =
        [root] ∧ root.children = leading ++ [member]) ∧
      house.Shows (CityModel.painted.settings .standard) .standard member ∧
      house.HasThemes ["summer", "winter"] ∧
      house.firstMaterials "summer" = [⟨"roof", .plain "tiles"⟩] ∧
      ((encode .painted).run (.new .standard)).notices.filterMap
        Notice.repeatedMaterial? = [("tiles", "summer")] := by
  obtain ⟨-, root, leading, members, hstack, -, hchildren, -, hshows, hthemes,
    -, hnotices, -⟩ :=
    encode_shows (.new .standard) .painted Options.validate_standard
  obtain ⟨member, rest, hmember, hrest, rfl⟩ :=
    List.forall₂_cons_left_iff.mp hshows
  rw [List.forall₂_nil_left_iff] at hrest
  subst hrest
  refine ⟨_, leading, member, rfl, ⟨root, hstack, hchildren⟩, hmember, ?_, ?_,
    ?_⟩
  · exact hthemes _ List.mem_cons_self
  · decide +kernel
  · rw [hnotices]
    decide +kernel

end CityMarkup
