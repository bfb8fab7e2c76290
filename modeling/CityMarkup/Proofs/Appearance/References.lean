import CityMarkup.Proofs.Appearance.Reports
import CityMarkup.Proofs.Encoding.Omission

/-!
# References of appearances

A binding is written with a reference to the identifier that it aims at.  Where
every binding aims at what carries it, each reference of a document leads to a
geometry or a polygon of the model, and to an element of the document if the
geometry is written.  Bindings are collected from geometries that are not
written too, and the references for these may lead nowhere.
-/

namespace CityMarkup

/-! ## What carries bindings -/

/-- A geometry or a polygon, with its bindings. -/
structure Carrier where
  id : String
  bindings : Bindings

mutual

/-- A geometry, those nested in it, and its polygons. -/
def Geometry.carriers : Geometry → List Carrier
  | ⟨id, _, _, polygons, _, children, appearance⟩ =>
    ⟨id, appearance⟩ :: (Geometry.allCarriers children ++
      polygons.map fun p => ⟨p.id, p.appearance⟩)

/-- All that can carry bindings in some geometries. -/
def Geometry.allCarriers : List Geometry → List Carrier
  | [] => []
  | g :: rest => g.carriers ++ Geometry.allCarriers rest

end

/-- All that is bound on either side. -/
def Sided.values {α : Type} (s : Sided α) : List α :=
  s.front.entries.map (·.2) ++ s.back.entries.map (·.2)

/-- The identifiers that some bindings aim at. -/
def Bindings.aims (b : Bindings) : List String :=
  b.materials.values.map MaterialBinding.target ++
    b.textures.values.map TextureBinding.target

/-- Whether all bindings of a carrier aim at the carrier, by an identifier that
is not empty. -/
def Carrier.AimsAtItself (c : Carrier) : Prop :=
  ∀ id ∈ c.bindings.aims, id = c.id ∧ id ≠ ""

instance (c : Carrier) : Decidable c.AimsAtItself :=
  inferInstanceAs (Decidable (∀ id ∈ c.bindings.aims, _))

/-- Whether all bindings of a model aim at what carries them. -/
def CityModel.AimsAtCarriers (m : CityModel) : Prop :=
  ∀ p ∈ CityObject.forest m.objects, ∀ g ∈ p.geometries, ∀ c ∈ g.carriers,
    c.AimsAtItself

instance (m : CityModel) : Decidable m.AimsAtCarriers :=
  inferInstanceAs (Decidable (∀ p ∈ CityObject.forest m.objects, _))

mutual

theorem Geometry.map_carriers :
    ∀ g : Geometry, g.carriers.map Carrier.bindings = g.targets
  | ⟨_, _, _, polygons, _, children, appearance⟩ => by
    rw [carriers, targets, List.map_cons, List.map_append,
      map_allCarriers children, List.map_map]
    rfl

theorem Geometry.map_allCarriers : ∀ gs : List Geometry,
    (Geometry.allCarriers gs).map Carrier.bindings = Geometry.allTargets gs
  | [] => rfl
  | g :: rest => by
    rw [allCarriers, allTargets, List.map_append, map_carriers g,
      map_allCarriers rest]

end

theorem Geometry.allCarriers_eq_flatMap (gs : List Geometry) :
    Geometry.allCarriers gs = gs.flatMap carriers := by
  induction gs with
  | nil => rfl
  | cons g rest ih => rw [allCarriers, ih, List.flatMap_cons]

namespace CityObject

mutual

theorem targets_eq_flatMap : ∀ o : CityObject,
    o.targets = o.subtree.flatMap fun p => Geometry.allTargets p.geometries
  | ⟨_, _, _, geometries, children, _, _, _⟩ => by
    rw [targets, subtree, List.flatMap_cons, allTargets_eq_flatMap children]

theorem allTargets_eq_flatMap : ∀ os : List CityObject,
    allTargets os = (forest os).flatMap fun p =>
      Geometry.allTargets p.geometries
  | [] => rfl
  | o :: rest => by
    rw [allTargets, forest, List.flatMap_append, targets_eq_flatMap o,
      allTargets_eq_flatMap rest]

end

/-- What is bound in an object is bound to a carrier in it. -/
theorem exists_carrier {o : CityObject} {b : Bindings} (h : b ∈ o.targets) :
    ∃ p ∈ o.subtree, ∃ g ∈ p.geometries, ∃ c ∈ g.carriers,
      c.bindings = b := by
  rw [targets_eq_flatMap, List.mem_flatMap] at h
  obtain ⟨p, hp, hb⟩ := h
  rw [← Geometry.map_allCarriers, List.mem_map] at hb
  obtain ⟨c, hc, rfl⟩ := hb
  rw [Geometry.allCarriers_eq_flatMap, List.mem_flatMap] at hc
  obtain ⟨g, hg, hc⟩ := hc
  exact ⟨p, hp, g, hg, c, hc, rfl⟩

end CityObject

theorem Dictionary.mem_of_get? {α : Type} {d : Dictionary α} {key : String}
    {value : α} (h : d.get? key = some value) :
    value ∈ d.entries.map (·.2) := by
  obtain ⟨entry, hentry, rfl⟩ := Option.map_eq_some_iff.mp h
  exact List.mem_map_of_mem (List.mem_of_find?_eq_some hentry)

theorem Sided.mem_values_of_mem_boundFor {α : Type} {s : Sided α}
    {theme : String} {value : α} (h : value ∈ s.boundFor theme) :
    value ∈ s.values := by
  rw [values, List.mem_append]
  rcases List.mem_append.mp h with hfront | hback
  · exact Or.inl (Dictionary.mem_of_get? (Option.mem_toList.mp hfront))
  · exact Or.inr (Dictionary.mem_of_get? (Option.mem_toList.mp hback))

/-! ## References that are written -/

/-- Whether a request is for a reference to a target. -/
def Request.IsTarget (r : Request) : Prop :=
  r.name = "target" ∧ r.ns = .appearance

namespace Fragment

/-- Whether the references to targets in some fragments are references to
certain identifiers only. -/
def PointTo (aim : String → Prop) (fragments : List Fragment) : Prop :=
  ∀ r ∈ allRequests fragments, r.IsTarget →
    ∃ id, aim id ∧ r.attributes = [("uri", "#" ++ id)]

variable {aim : String → Prop}

theorem Lacks.pointTo {fragments : List Fragment}
    (h : Lacks "target" .appearance fragments) : PointTo aim fragments :=
  fun r hr htarget => absurd htarget (h r hr)

theorem PointTo.append {first second : List Fragment}
    (hfirst : PointTo aim first) (hsecond : PointTo aim second) :
    PointTo aim (first ++ second) := by
  rw [PointTo, allRequests_eq_flatMap, List.flatMap_append,
    List.forall_mem_append, ← allRequests_eq_flatMap,
    ← allRequests_eq_flatMap]
  exact ⟨hfirst, hsecond⟩

theorem pointTo_map {α : Type} {f : α → Fragment} {l : List α}
    (h : ∀ a ∈ l, PointTo aim [f a]) : PointTo aim (l.map f) := by
  induction l with
  | nil => exact lacks_nil.pointTo
  | cons a rest ih =>
      obtain ⟨hfirst, hrest⟩ := List.forall_mem_cons.mp h
      exact hfirst.append (ih hrest)

theorem pointTo_element {name : String} {ns : Namespace}
    {attributes : List (String × String)} {content : List Fragment}
    (hself : Request.IsTarget ⟨name, ns, attributes⟩ →
      ∃ id, aim id ∧ attributes = [("uri", "#" ++ id)])
    (hcontent : PointTo aim content) :
    PointTo aim [.element name ns attributes content] := by
  intro r hr
  rw [allRequests, allRequests, List.append_nil, requests, List.mem_cons] at hr
  rcases hr with rfl | hr
  · exact hself
  · exact hcontent r hr

theorem pointTo_wrap {name : String} {ns : Namespace}
    {content : List Fragment} (hname : name ≠ "target")
    (hcontent : PointTo aim content) :
    PointTo aim [.wrap name ns content] :=
  pointTo_element (fun htarget => absurd htarget.1 hname) hcontent

end Fragment

section References

open Fragment

variable {aim : String → Prop}

theorem MaterialBinding.pointTo_fragment {b : MaterialBinding}
    (h : aim b.target) : PointTo aim [b.fragment] := by
  have hmaterial := b.material.lacks_fragment
    (by decide : "target" ∉ surfaceDataNames)
  apply pointTo_wrap (by decide)
  rw [← List.singleton_append]
  apply hmaterial.pointTo.append
  exact pointTo_element (fun _ => ⟨b.target, h, rfl⟩) lacks_nil.pointTo

theorem TextureBinding.pointTo_fragment {b : TextureBinding}
    (h : aim b.target) : PointTo aim [b.fragment] := by
  have hnot : "target" ∉ surfaceDataNames := by decide
  have htexture := b.texture.lacks_fragments hnot
  have hcoordinates := b.lacks_coordinateFragments hnot
  apply pointTo_wrap (by decide)
  apply pointTo_wrap (by decide)
  apply htexture.pointTo.append
  exact pointTo_element (fun _ => ⟨b.target, h, rfl⟩) hcoordinates.pointTo

/-- What is written for some bindings points to what they aim at. -/
theorem ThemedAppearances.pointTo_fragments {t : ThemedAppearances}
    (hmaterials : ∀ theme, ∀ b ∈ t.materialsOf theme, aim b.target)
    (htextures : ∀ theme, ∀ b ∈ t.texturesOf theme, aim b.target) :
    PointTo aim t.fragments := by
  rw [fragments]
  split
  · exact lacks_nil.pointTo
  · apply pointTo_wrap (by decide)
    apply pointTo_map
    intro theme _
    apply pointTo_wrap (by decide)
    rw [← List.singleton_append]
    apply (lacks_textElement (by decide) theme).pointTo.append
    apply PointTo.append
    · apply pointTo_map
      intro b hb
      rw [markedMaterials, written_markFirst_nil] at hb
      exact b.pointTo_fragment (hmaterials theme b (mem_of_mem_firsts hb))
    · apply pointTo_map
      intro b hb
      rw [markedTextures, written_markFirst] at hb
      have hfirst := (List.mem_filter.mp hb).1
      exact b.pointTo_fragment (htextures theme b (mem_of_mem_firsts hfirst))

/-- What is written for the bindings of an object points to what the bindings
of its targets aim at. -/
theorem ThemedAppearances.pointTo_collect (object : CityObject) :
    PointTo (fun id => ∃ b ∈ object.targets, id ∈ b.aims)
      (collect object).fragments := by
  apply pointTo_fragments
  · intro theme b hb
    rw [materialsOf_collect, CityObject.materialsFor, List.mem_flatMap] at hb
    obtain ⟨bindings, hbindings, hb⟩ := hb
    refine ⟨bindings, hbindings, ?_⟩
    rw [Bindings.aims, List.mem_append]
    exact Or.inl (List.mem_map_of_mem (Sided.mem_values_of_mem_boundFor hb))
  · intro theme b hb
    rw [texturesOf_collect, CityObject.texturesFor, List.mem_flatMap] at hb
    obtain ⟨bindings, hbindings, hb⟩ := hb
    refine ⟨bindings, hbindings, ?_⟩
    rw [Bindings.aims, List.mem_append]
    exact Or.inr (List.mem_map_of_mem (Sided.mem_values_of_mem_boundFor hb))

end References

namespace CityObject

open Fragment

variable (declared : Namespace → Bool) (o : Options)

/-- An object points to what the bindings of its targets aim at. -/
theorem pointTo_fragment (object : CityObject) :
    PointTo (fun id => ∃ b ∈ object.targets, id ∈ b.aims)
      [object.fragment declared o true] := by
  have hshown : PointTo (fun id => ∃ b ∈ object.targets, id ∈ b.aims)
      (object.shownAppearances o true).fragments := by
    rw [shownAppearances]
    split
    · exact ThemedAppearances.pointTo_collect object
    · exact lacks_nil.pointTo
  have hbefore := (object.attributes.isOutside_fragments declared
    o.genericAttributes).lacks "target"
  have hafter := (object.isOutside_rest declared o).lacks "target"
  have hcontent := hbefore.pointTo.append (hshown.append hafter.pointTo)
  have hmodule := thematicModule_ne_appearance object.type
  obtain ⟨id, type, attributes, geometries, children, address, reference,
    coverage⟩ := object
  rw [fragment]
  apply pointTo_element (fun htarget => absurd htarget.2 hmodule)
  simpa only [List.append_assoc] using hcontent

end CityObject

namespace CityModel

open Fragment

/-- A model points to what the bindings of its carriers aim at. -/
theorem pointTo_fragments (declared : Namespace → Bool) (o : Options)
    (m : CityModel) :
    PointTo (fun id => ∃ p ∈ CityObject.forest m.objects,
        ∃ g ∈ p.geometries, ∃ c ∈ g.carriers, id ∈ c.bindings.aims)
      (m.fragments declared o) := by
  have hattributes := (m.attributes.isOutside_fragments declared
    o.genericAttributes).lacks "target"
  have henvelope : AllSound Namespace.otherThanAppearance
      (if m.envelope.isDefined then [m.envelope.fragment] else []) :=
    allSound_ite (allSound_singleton
      (m.envelope.isSound_fragment ⟨by decide, by decide⟩))
  apply (hattributes.pointTo.append (henvelope.lacks "target").pointTo).append
  apply pointTo_map
  intro object hobject
  apply pointTo_wrap (by decide)
  intro r hr htarget
  obtain ⟨id, ⟨b, hb, hid⟩, hr⟩ :=
    object.pointTo_fragment declared o r hr htarget
  obtain ⟨p, hp, g, hg, c, hc, rfl⟩ := CityObject.exists_carrier hb
  have hforest := CityObject.subtree_subset_forest hobject p hp
  exact ⟨id, ⟨p, hforest, g, hg, c, hc, hid⟩, hr⟩

end CityModel

/-! ## Identifiers that are written -/

namespace Fragment

/-- Whether some fragment has an element with an identifier. -/
def Identifies (id : String) (fragments : List Fragment) : Prop :=
  ∃ r ∈ allRequests fragments, r.attributes = [("gml:id", id)]

variable {id : String}

theorem Identifies.mono {first second : List Fragment}
    (h : Identifies id first) (hsubset : first ⊆ second) :
    Identifies id second := by
  obtain ⟨r, hr, hid⟩ := h
  rw [allRequests_eq_flatMap, List.mem_flatMap] at hr
  obtain ⟨fragment, hmem, hr⟩ := hr
  refine ⟨r, ?_, hid⟩
  rw [allRequests_eq_flatMap]
  exact List.mem_flatMap.mpr ⟨fragment, hsubset hmem, hr⟩

theorem Identifies.of_mem {fragment : Fragment} {fragments : List Fragment}
    (h : Identifies id [fragment]) (hmem : fragment ∈ fragments) :
    Identifies id fragments :=
  h.mono (List.cons_subset.mpr ⟨hmem, List.nil_subset _⟩)

theorem Identifies.within {content : List Fragment}
    (h : Identifies id content) (name : String) (ns : Namespace)
    (attributes : List (String × String)) :
    Identifies id [.element name ns attributes content] := by
  obtain ⟨r, hr, hid⟩ := h
  refine ⟨r, ?_, hid⟩
  rw [allRequests, allRequests, List.append_nil, requests]
  exact List.mem_cons_of_mem _ hr

theorem identifies_identity (h : id ≠ "") (name : String) (ns : Namespace)
    (content : List Fragment) :
    Identifies id [.element name ns (identity id) content] := by
  refine ⟨⟨name, ns, identity id⟩, ?_, ?_⟩
  · rw [allRequests, allRequests, List.append_nil, requests]
    exact List.mem_cons_self
  · rw [identity, if_neg (mt String.isEmpty_iff.mp h)]

end Fragment

namespace Geometry

open Fragment

theorem identifies_enclose {id : String} {kind : GeometryKind}
    {content : List Fragment} (h : Identifies id content) :
    Identifies id (enclose kind content) := by
  rw [enclose]
  split
  · exact h.within "exterior" .gml []
  · exact h

mutual

/-- Every carrier of a geometry that has an identifier is written with it. -/
theorem identifies_fragment : ∀ (g : Geometry), ∀ c ∈ g.carriers, c.id ≠ "" →
    Identifies c.id [g.fragment]
  | ⟨id, lod, role, polygons, lines, children, appearance⟩, c, hc, hid => by
    rw [fragment]
    rw [carriers, List.mem_cons, List.mem_append] at hc
    rcases hc with rfl | hchild | hpolygon
    · exact identifies_identity hid _ _ _
    · apply Identifies.within
      apply identifies_enclose
      apply (identifies_fragments children c hchild hid).mono
      exact List.subset_append_right _ _
    · obtain ⟨p, hp, rfl⟩ := List.mem_map.mp hpolygon
      apply Identifies.within
      apply identifies_enclose
      have hself : Identifies p.id [p.fragment] := identifies_identity hid _ _ _
      have hmember : Fragment.wrap "surfaceMember" .gml [p.fragment] ∈
          polygons.map fun p => .wrap "surfaceMember" .gml [p.fragment] :=
        List.mem_map_of_mem hp
      apply (hself.within "surfaceMember" .gml []).of_mem
      exact List.mem_append_left _ (List.mem_append_left _ hmember)

theorem identifies_fragments : ∀ (gs : List Geometry),
    ∀ c ∈ Geometry.allCarriers gs, c.id ≠ "" → Identifies c.id (fragments gs)
  | [], c, hc, _ => by cases hc
  | g :: rest, c, hc, hid => by
    rw [allCarriers, List.mem_append] at hc
    rw [fragments]
    rcases hc with hfirst | hrest
    · exact (identifies_fragment g c hfirst hid).of_mem List.mem_cons_self
    · exact (identifies_fragments rest c hrest hid).mono
        (List.subset_cons_self _ _)

end

end Geometry

namespace CityObject

open Fragment

variable (declared : Namespace → Bool) (o : Options)

theorem identifies_placedFragments {object : CityObject} {g : Geometry}
    {c : Carrier} (hg : g ∈ object.geometries)
    (hwritten : g.isWritten o object.type = true) (hc : c ∈ g.carriers)
    (hid : c.id ≠ "") :
    Identifies c.id (object.geometries.flatMap
      (Geometry.placedFragments o object.type)) := by
  obtain ⟨name, -, hplaced⟩ := Geometry.placedFragments_of_isWritten hwritten
  have hcontainer :=
    (g.identifies_fragment c hc hid).within name object.type.thematicModule []
  apply hcontainer.of_mem
  refine List.mem_flatMap.mpr ⟨g, hg, ?_⟩
  rw [hplaced]
  exact List.mem_singleton_self _

mutual

/-- Every carrier in a geometry that is written for an object or an object
below it is written with its identifier. -/
theorem identifies_fragment (isRoot : Bool) :
    ∀ (object : CityObject), ∀ p ∈ object.subtree, ∀ g ∈ p.geometries,
      g.isWritten o p.type = true → ∀ c ∈ g.carriers, c.id ≠ "" →
      Identifies c.id [object.fragment declared o isRoot]
  | ⟨id, type, attributes, geometries, children, address, reference,
      coverage⟩, p, hp, g, hg, hwritten, c, hc, hid => by
    rw [fragment]
    apply Identifies.within
    rw [subtree, List.mem_cons] at hp
    rcases hp with rfl | hbelow
    · have hplaced := identifies_placedFragments o hg hwritten hc hid
      apply hplaced.mono
      intro fragment hfragment
      simp only [List.mem_append]
      exact Or.inl (Or.inl (Or.inl (Or.inr hfragment)))
    · have hchild := identifies_childFragments children p hbelow g hg hwritten
        c hc hid
      apply hchild.mono
      intro fragment hfragment
      simp only [List.mem_append]
      exact Or.inl (Or.inl (Or.inr hfragment))

theorem identifies_childFragments :
    ∀ (children : List CityObject), ∀ p ∈ forest children,
      ∀ g ∈ p.geometries, g.isWritten o p.type = true → ∀ c ∈ g.carriers,
      c.id ≠ "" → Identifies c.id (childFragments declared o children)
  | [], p, hp, _, _, _, _, _, _ => by cases hp
  | child :: rest, p, hp, g, hg, hwritten, c, hc, hid => by
    rw [forest, List.mem_append] at hp
    rw [childFragments]
    rcases hp with hfirst | hrest
    · have hchild := identifies_fragment false child p hfirst g hg hwritten c hc
        hid
      exact (hchild.within "boundedBy" .building []).of_mem List.mem_cons_self
    · have hlater := identifies_childFragments rest p hrest g hg hwritten c hc
        hid
      exact hlater.mono (List.subset_cons_self _ _)

end

end CityObject

namespace CityModel

open Fragment

theorem identifies_fragments (declared : Namespace → Bool) (o : Options)
    {m : CityModel} {p : CityObject} {g : Geometry} {c : Carrier}
    (hp : p ∈ CityObject.forest m.objects) (hg : g ∈ p.geometries)
    (hwritten : g.isWritten o p.type = true) (hc : c ∈ g.carriers)
    (hid : c.id ≠ "") : Identifies c.id (m.fragments declared o) := by
  rw [CityObject.forest_eq_flatMap, List.mem_flatMap] at hp
  obtain ⟨object, hobject, hp⟩ := hp
  have hself := object.identifies_fragment declared o true p hp g hg hwritten c
    hc hid
  apply (hself.within "cityObjectMember" .core []).of_mem
  exact List.mem_append_right _ (List.mem_map_of_mem hobject)

end CityModel

/-! ## The references of a document -/

/-- Whether some element has an identifier. -/
def OpenElement.Holds (root : OpenElement) (id : String) : Prop :=
  ∃ element ∈ root.toNode.elements, element.2.lookup "gml:id" = some id

instance (root : OpenElement) (id : String) : Decidable (root.Holds id) :=
  inferInstanceAs (Decidable (∃ element ∈ root.toNode.elements, _))

namespace CityModel

variable (o : Options) (m : CityModel)

/-- Every reference to a target in the encoded model is to the aim of a binding
in the model. -/
theorem target_of_mem_elements {element : String × List (String × String)}
    (helement : element ∈ (m.encodedRoot o).toNode.elements)
    (hname : element.1 = "app:target") :
    ∃ p ∈ CityObject.forest m.objects, ∃ g ∈ p.geometries,
      ∃ c ∈ g.carriers, ∃ id ∈ c.bindings.aims,
        element.2 = [("uri", "#" ++ id)] := by
  have hwritten : "app" ++ ":" ++ "target" = "app:target" := by decide
  rw [OpenElement.toNode, Node.elements, List.mem_cons,
    elements_encodedRoot] at helement
  rcases helement with rfl | helement
  · have hroot : (m.encodedRoot o).name = "CityModel" :=
      Settings.qualify_cityGml (m.settings o) "CityModel"
    rw [hroot] at hname
    exact absurd hname (by decide : "CityModel" ≠ "app:target")
  · obtain ⟨r, hr, rfl⟩ := List.mem_map.mp helement
    have htarget : r.IsTarget := by
      by_contra hother
      have hsound := (allSound_fragments o m).of_mem_requests hr
      have hne := Fragment.qualify_ne_of_isSound hsound rfl hother
      rw [hwritten] at hne
      exact hne hname
    obtain ⟨id, ⟨p, hp, g, hg, c, hc, hid⟩, hattributes⟩ :=
      m.pointTo_fragments _ o r hr htarget
    refine ⟨p, hp, g, hg, c, hc, id, hid, ?_⟩
    rw [Request.written, hattributes]
    rfl

/-- A carrier in a geometry that is written is in the document. -/
theorem holds_encodedRoot {p : CityObject} {g : Geometry} {c : Carrier}
    (hp : p ∈ CityObject.forest m.objects) (hg : g ∈ p.geometries)
    (hwritten : g.isWritten o p.type = true) (hc : c ∈ g.carriers)
    (hid : c.id ≠ "") : (m.encodedRoot o).Holds c.id := by
  obtain ⟨r, hr, hattributes⟩ := identifies_fragments
    (m.settings o).isDeclared o hp hg hwritten hc hid
  refine ⟨r.written (m.settings o), ?_, ?_⟩
  · rw [OpenElement.toNode, Node.elements, elements_encodedRoot]
    exact List.mem_cons_of_mem _ (List.mem_map_of_mem hr)
  · rw [Request.written, hattributes]
    exact List.lookup_cons_self

end CityModel

/-- Where all bindings of a model aim at what carries them, each reference of
the encoded model is to a geometry or a polygon that carries a binding, and the
document holds an element with the identifier if any geometry or polygon that
has it belongs to a geometry that is written. -/
theorem Writer.encode_refers (w : Writer) (m : CityModel)
    (hvalid : w.options.validate = .ok ()) (haims : m.AimsAtCarriers) :
    ∃ root, ((encode m).run w).state.builder.stack = [root] ∧
      ∀ element ∈ root.toNode.elements, element.1 = "app:target" →
        ∃ id, element.2 = [("uri", "#" ++ id)] ∧
          (∃ p ∈ CityObject.forest m.objects, ∃ g ∈ p.geometries,
            ∃ c ∈ g.carriers, c.id = id ∧ id ∈ c.bindings.aims) ∧
          ∀ p ∈ CityObject.forest m.objects, ∀ g ∈ p.geometries,
            ∀ c ∈ g.carriers, c.id = id →
              g.isWritten w.options p.type = true → root.Holds id := by
  refine ⟨m.encodedRoot w.options, ?_, ?_⟩
  · rw [run_encode_ok hvalid]
    rfl
  · intro element helement hname
    obtain ⟨p, hp, g, hg, c, hc, id, hid, hattributes⟩ :=
      m.target_of_mem_elements w.options helement hname
    obtain ⟨hself, hne⟩ := haims p hp g hg c hc id hid
    refine ⟨id, hattributes, ⟨p, hp, g, hg, c, hc, hself.symm, hid⟩, ?_⟩
    rintro p hp g hg c hc rfl hwritten
    exact m.holds_encodedRoot w.options hp hg hwritten hc hne

/-- All references of a house whose geometries are written lead somewhere. -/
theorem Writer.encode_refers_painted :
    ∃ root, ((encode .painted).run (.new .standard)).state.builder.stack =
        [root] ∧
      ∀ element ∈ root.toNode.elements, element.1 = "app:target" →
        ∃ id, element.2 = [("uri", "#" ++ id)] ∧ root.Holds id := by
  have haims : CityModel.painted.AimsAtCarriers := by decide +kernel
  have hwritten : ∀ p ∈ CityObject.forest CityModel.painted.objects,
      ∀ g ∈ p.geometries, g.isWritten .standard p.type = true := by
    decide +kernel
  obtain ⟨root, hstack, hrefers⟩ :=
    encode_refers (.new .standard) .painted Options.validate_standard haims
  refine ⟨root, hstack, fun element helement hname => ?_⟩
  obtain ⟨id, hattributes, ⟨p, hp, g, hg, c, hc, hid, -⟩, hholds⟩ :=
    hrefers element helement hname
  exact ⟨id, hattributes, hholds p hp g hg c hc hid (hwritten p hp g hg)⟩

/-- A road with a geometry that a material is bound to. -/
def CityModel.road : CityModel :=
  let bound : Bindings := Bindings.empty.addMaterial "summer" .front
    ⟨"lane", .plain "asphalt"⟩
  ⟨"", none, .unset, .empty,
    [⟨"road", .road, .empty,
      [⟨"lane", 2, .ground, [⟨"left", none, [], .empty⟩], [], [], bound⟩], [],
      none, none, none⟩]⟩

/-- Roads have no place for geometries, but they show what is bound to them, and
the reference to the geometry leads nowhere. -/
theorem Writer.encode_refers_road :
    Options.standard.validate = .ok () ∧
      Options.standard.appearances = true ∧ CityModel.road.AimsAtCarriers ∧
      ∃ root, ((encode .road).run (.new .standard)).state.builder.stack =
          [root] ∧
        ("app:target", [("uri", "#lane")]) ∈ root.toNode.elements ∧
        ¬root.Holds "lane" := by
  refine ⟨Options.validate_standard, rfl, by decide +kernel,
    CityModel.road.encodedRoot .standard, ?_, by decide +kernel,
    by decide +kernel⟩
  exact congrArg (fun done => done.state.builder.stack)
    (run_encode_ok (w := .new .standard) Options.validate_standard .road)

end CityMarkup
