import CityMarkup.Proofs.Encoding.Insertion

/-!
# Runs on open documents

On an open document an encoder succeeds, adds nodes behind those that the
innermost element has already, gives notices, and leaves everything else as it
was.  Such runs compose, so what an encoder adds is read off from its parts.
The nodes are those of its fragments, and the notices come in the order in
which the objects are visited.
-/

namespace CityMarkup

theorem Fragment.toNodes_eq_map (s : Settings) (fragments : List Fragment) :
    Fragment.toNodes s fragments = fragments.map (Fragment.toNode s) := by
  induction fragments with
  | nil => rfl
  | cons fragment rest ih => rw [Fragment.toNodes, ih, List.map_cons]

theorem Fragment.toNodes_append (s : Settings)
    (first second : List Fragment) :
    Fragment.toNodes s (first ++ second) =
      Fragment.toNodes s first ++ Fragment.toNodes s second := by
  simp only [Fragment.toNodes_eq_map, List.map_append]

namespace Builder

/-- On every open document with the given settings the action succeeds, adds
the nodes to the innermost element, and changes nothing else. -/
def Adds {α : Type} (x : Action Builder α) (s : Settings) (result : α)
    (nodes : List Node) (notices : List Notice) : Prop :=
  ∀ (e : OpenElement) (outer : List OpenElement),
    x.run ⟨s, e :: outer, none⟩ =
      ⟨.ok result, ⟨s, { e with children := e.children ++ nodes } :: outer,
        none⟩, notices⟩

/-! ## How runs compose -/

section Composition

variable {α β : Type} {s : Settings}

theorem adds_pure (a : α) :
    Adds (pure a) s a [] [] := by
  intro e outer
  simp

theorem adds_note (notices : List Notice) :
    Adds (.note notices) s () [] notices := by
  intro e outer
  rw [List.append_nil]
  rfl

theorem adds_insertAll (s : Settings) (fragments : List Fragment) :
    Adds (insertAll fragments) s () (Fragment.toNodes s fragments) [] :=
  fun e outer => run_insertAll s e outer fragments

theorem adds_insert (s : Settings) (fragment : Fragment) :
    Adds (insert fragment) s () [fragment.toNode s] [] :=
  fun e outer => run_insert s e outer fragment

theorem Adds.bind {x : Action Builder α} {f : α → Action Builder β} {a : α}
    {b : β} {nodes more : List Node} {before after : List Notice}
    (hx : Adds x s a nodes before) (hf : Adds (f a) s b more after) :
    Adds (x >>= f) s b (nodes ++ more) (before ++ after) := by
  intro e outer
  rw [Action.run_bind_noted (hx e outer) (hf _ outer), List.append_assoc]

theorem Adds.seq {x : Action Builder Unit} {y : Action Builder β} {b : β}
    {nodes more : List Node} {before after : List Notice}
    (hx : Adds x s () nodes before) (hy : Adds y s b more after) :
    Adds (do x; y) s b (nodes ++ more) (before ++ after) :=
  hx.bind hy

theorem Adds.when {x : Action Builder Unit} {nodes : List Node}
    {notices : List Notice} (hx : Adds x s () nodes notices)
    (condition : Bool) :
    Adds (.when condition x) s () (if condition then nodes else [])
      (if condition then notices else []) := by
  cases condition with
  | false => exact adds_pure ()
  | true => exact hx

theorem adds_forM {f : α → Action Builder Unit} {nodes : α → List Node}
    {notices : α → List Notice} (h : ∀ a, Adds (f a) s () (nodes a) (notices a))
    (l : List α) :
    Adds (l.forM f) s () (l.flatMap nodes) (l.flatMap notices) := by
  induction l with
  | nil => exact adds_pure ()
  | cons a rest ih => exact (h a).seq ih

theorem adds_forM_map {f : α → Action Builder Unit} {node : α → Node}
    {notices : α → List Notice} (h : ∀ a, Adds (f a) s () [node a] (notices a))
    (l : List α) : Adds (l.forM f) s () (l.map node) (l.flatMap notices) := by
  rw [List.map_eq_flatMap]
  exact adds_forM h l

/-- An element that is opened, given attributes, filled and closed again is
one node more in the element around it. -/
theorem Adds.element {body : Action Builder Unit} {nodes : List Node}
    {notices : List Notice} (hbody : Adds body s () nodes notices)
    (name : String) (ns : Namespace) (attributes : List (String × String)) :
    Adds (do
        startElement name ns
        writeAttributes attributes
        body
        endElement) s ()
      [.element (s.qualify name ns)
        (attributes.foldl (fun l a => setAttribute a.1 a.2 l) []) nodes]
      notices := by
  intro e outer
  rw [Action.run_bind_ok (run_startElement s e outer name ns),
    Action.run_bind_ok (run_writeAttributes s _ _ attributes),
    Action.run_bind_noted (hbody _ _) (run_endElement s _ outer e),
    List.append_nil]
  rfl

theorem Adds.wrap {body : Action Builder Unit} {nodes : List Node}
    {notices : List Notice} (hbody : Adds body s () nodes notices)
    (name : String) (ns : Namespace) :
    Adds (do
        startElement name ns
        body
        endElement) s ()
      [.element (s.qualify name ns) [] nodes] notices := by
  have h := hbody.element name ns []
  simpa only [writeAttributes, pure_bind, List.foldl_nil] using h

end Composition

/-! ## Attributes -/

variable (s : Settings)

theorem run_addAttribute (generic : Bool) (entry : String × AttributeValue)
    (b : Builder) :
    (addAttribute generic entry).run b =
      (insertAll (Attributes.entryFragments b.settings.isDeclared generic
        entry)).run b := by
  rw [addAttribute, Action.run_withState, Attributes.entryFragments]
  cases (KnownAttribute.lookup? entry.1).filter
      (fun known => b.settings.isDeclared known.ns) with
  | some known => simp only [insertAll_singleton, insert_textElement]
  | none =>
      simp only [addGenericAttribute_eq]
      rw [← insertAll_singleton, when_insertAll]

theorem adds_addAttribute (generic : Bool)
    (entry : String × AttributeValue) :
    Adds (addAttribute generic entry) s ()
      (Fragment.toNodes s
        (Attributes.entryFragments s.isDeclared generic entry)) [] := by
  intro e outer
  rw [run_addAttribute]
  exact adds_insertAll s _ e outer

theorem adds_addAttributes (attributes : Attributes) (generic : Bool) :
    Adds (addAttributes attributes generic) s ()
      (Fragment.toNodes s (attributes.fragments s.isDeclared generic)) [] := by
  have h := adds_forM (adds_addAttribute s generic) attributes.entries
  have hnodes : attributes.entries.flatMap (fun entry => Fragment.toNodes s
      (Attributes.entryFragments s.isDeclared generic entry)) =
      Fragment.toNodes s (attributes.fragments s.isDeclared generic) := by
    simp only [Attributes.fragments, Fragment.toNodes_eq_map, List.map_flatMap]
  have hnotices : attributes.entries.flatMap (fun _ => ([] : List Notice)) =
      [] := by simp
  rw [hnodes, hnotices] at h
  exact h

/-! ## Appearances -/

theorem markFirst_congr {α : Type} (key : α → String) (items : List α)
    {known known' : List String}
    (h : ∀ k, known.contains k = known'.contains k) :
    ThemedAppearances.markFirst key known items =
      ThemedAppearances.markFirst key known' items := by
  induction items generalizing known known' with
  | nil => rfl
  | cons item rest ih =>
      rw [ThemedAppearances.markFirst, ThemedAppearances.markFirst,
        h (key item), ih h]
      have hcons : ∀ k, (key item :: known).contains k =
          (key item :: known').contains k := by
        intro k
        rw [List.contains_cons, List.contains_cons, h k]
      rw [ih hcons]

/-- The loop that skips repetitions adds the items that come up first and
gives notice of the others.  Afterwards exactly the keys known before and the
keys of the items are known. -/
theorem exists_adds_addOnce {α : Type} (key : α → String)
    {add : α → Action Builder Unit} {fragment : α → Fragment}
    (hadd : ∀ item, add item = insert (fragment item))
    (repetition : α → Notice) (known : List String) (items : List α) :
    ∃ final,
      Adds (addOnce key add repetition known items) s final
        ((ThemedAppearances.written
          (ThemedAppearances.markFirst key known items)).map
            fun item => (fragment item).toNode s)
        ((ThemedAppearances.repeated
          (ThemedAppearances.markFirst key known items)).map repetition) ∧
      ∀ k, k ∈ final ↔ k ∈ known ∨ k ∈ items.map key := by
  induction items generalizing known with
  | nil => exact ⟨known, adds_pure known, by simp⟩
  | cons item rest ih =>
      by_cases hknown : known.contains (key item) = true
      · obtain ⟨final, hrest, hfinal⟩ := ih known
        refine ⟨final, ?_, ?_⟩
        · rw [addOnce, if_pos hknown, ThemedAppearances.markFirst,
            if_pos hknown]
          exact (adds_note [repetition item]).bind hrest
        · intro k
          have hmem : key item ∈ known := by simpa using hknown
          rw [hfinal k, List.map_cons, List.mem_cons]
          constructor
          · rintro (h | h)
            · exact Or.inl h
            · exact Or.inr (Or.inr h)
          · rintro (h | rfl | h)
            · exact Or.inl h
            · exact Or.inl hmem
            · exact Or.inr h
      · obtain ⟨final, hrest, hfinal⟩ := ih (key item :: known)
        refine ⟨final, ?_, ?_⟩
        · rw [addOnce, if_neg hknown, ThemedAppearances.markFirst,
            if_neg hknown, hadd]
          exact (adds_insert s (fragment item)).bind hrest
        · intro k
          rw [hfinal k, List.map_cons, List.mem_cons, List.mem_cons]
          constructor
          · rintro ((rfl | h) | h)
            · exact Or.inr (Or.inl rfl)
            · exact Or.inl h
            · exact Or.inr (Or.inr h)
          · rintro (h | rfl | h)
            · exact Or.inl (Or.inr h)
            · exact Or.inl (Or.inl rfl)
            · exact Or.inr h

theorem adds_addSurfaceData (t : ThemedAppearances) (theme : String) :
    Adds (addSurfaceData t theme) s ()
      (Fragment.toNodes s
        ((ThemedAppearances.written (t.markedMaterials theme)).map
          MaterialBinding.fragment ++
        (ThemedAppearances.written (t.markedTextures theme)).map
          TextureBinding.fragment))
      (t.themeNotices theme) := by
  obtain ⟨known, hmaterials, hknown⟩ := exists_adds_addOnce s
    (fun b : MaterialBinding => b.material.id) addMaterialBinding_eq
    (fun b => .materialRepeated b.material.id theme) [] (t.materialsOf theme)
  obtain ⟨final, htextures, -⟩ := exists_adds_addOnce s
    (fun b : TextureBinding => b.texture.id) addTextureBinding_eq
    (fun b => .textureRepeated b.texture.id theme) known (t.texturesOf theme)
  -- The loop knows each material once, the marks know every binding of it.
  have hmarked : ThemedAppearances.markFirst
      (fun b : TextureBinding => b.texture.id) known (t.texturesOf theme) =
      t.markedTextures theme := by
    apply markFirst_congr
    intro k
    rw [Bool.eq_iff_iff, List.contains_iff_mem, List.contains_iff_mem,
      hknown k]
    simp
  rw [hmarked] at htextures
  intro e outer
  rw [addSurfaceData, Action.run_bind_noted (hmaterials e outer)
    (Action.run_bind_noted (htextures _ outer) (Action.run_pure () _))]
  simp [ThemedAppearances.themeNotices, ThemedAppearances.markedMaterials,
    Fragment.toNodes_eq_map, Function.comp_def]

theorem adds_addTheme (t : ThemedAppearances) (theme : String) :
    Adds (addTheme t theme) s () [(t.themeFragment theme).toNode s]
      (t.themeNotices theme) := by
  have htheme := adds_insert s (.textElement "theme" .appearance theme)
  rw [insert_textElement] at htheme
  have h := (htheme.seq (adds_addSurfaceData s t theme)).wrap "Appearance"
    .appearance
  simp only [bind_assoc] at h
  exact h

theorem themes_of_isEmpty {t : ThemedAppearances} (h : t.isEmpty = true) :
    t.themes = [] := by
  rw [ThemedAppearances.isEmpty, Bool.and_eq_true] at h
  have hmaterials : t.materials.keys = [] := by
    rw [Dictionary.keys, List.isEmpty_iff.mp h.1, List.map_nil]
  have htextures : t.textures.keys = [] := by
    rw [Dictionary.keys, List.isEmpty_iff.mp h.2, List.map_nil]
  rw [ThemedAppearances.themes, hmaterials, htextures]
  rfl

theorem notices_of_isEmpty {t : ThemedAppearances} (h : t.isEmpty = true) :
    t.notices = [] := by
  rw [ThemedAppearances.notices, themes_of_isEmpty h, List.flatMap_nil]

theorem adds_addThemes (t : ThemedAppearances) :
    Adds (addThemes t) s () (Fragment.toNodes s t.fragments) t.notices := by
  have h := ((adds_forM_map (adds_addTheme s t) t.themes).wrap "appearance"
    .appearance).when (!t.isEmpty)
  have hthemes : t.themes.map (fun theme => (t.themeFragment theme).toNode s) =
      Fragment.toNodes s (t.themes.map t.themeFragment) := by
    rw [Fragment.toNodes_eq_map, List.map_map]
    rfl
  rw [hthemes] at h
  cases hempty : t.isEmpty with
  | true =>
      rw [hempty] at h
      rw [notices_of_isEmpty hempty, ThemedAppearances.fragments,
        if_pos hempty, addThemes, hempty]
      exact h
  | false =>
      rw [hempty] at h
      rw [ThemedAppearances.fragments, hempty, addThemes, hempty]
      exact h

theorem adds_addAppearances (object : CityObject) :
    Adds (addAppearances object) s ()
      (Fragment.toNodes s (ThemedAppearances.collect object).fragments)
      (ThemedAppearances.collect object).notices :=
  adds_addThemes s (.collect object)

/-! ## City objects -/

theorem adds_addPlaced (o : Options) (type : FeatureType) (objectId : String)
    (g : Geometry) :
    Adds (addPlaced o type objectId g) s ()
      (Fragment.toNodes s (g.placedFragments o type))
      (g.placementNotices o type objectId) := by
  rw [addPlaced, Geometry.placedFragments, Geometry.placementNotices]
  cases g.placement o type with
  | held container =>
      simp only
      rw [addGeometry_eq, ← insertAll_singleton, ← insert_wrap]
      exact adds_insert s _
  | empty => exact adds_note _
  | noContainer => exact adds_note _

/-- What stands in the element of an object before the objects below it. -/
theorem adds_shownAppearances (o : Options) (isRoot : Bool)
    (object : CityObject) :
    Adds (.when (isRoot && o.appearances) (addAppearances object)) s ()
      (Fragment.toNodes s (object.shownAppearances o isRoot).fragments)
      (object.shownAppearances o isRoot).notices := by
  have h := (adds_addAppearances s object).when (isRoot && o.appearances)
  rw [CityObject.shownAppearances]
  cases hshown : isRoot && o.appearances with
  | true =>
      rw [hshown] at h
      exact h
  | false =>
      rw [hshown] at h
      exact h

theorem addAddress_when (o : Options) (address : Option Address) :
    Action.when o.addresses (address.toList.forM addObjectAddress) =
      insertAll (CityObject.addressFragments o address) := by
  rw [forM_eq_insertAll_map addObjectAddress_eq, when_insertAll,
    CityObject.addressFragments]

theorem addReferences_when (o : Options)
    (reference : Option ExternalReference) (coverage : Option GridCoverage) :
    (Action.when o.externalReferences do
      reference.toList.forM addExternalReference
      coverage.toList.forM addCoverage) =
      insertAll (CityObject.referenceFragments o reference coverage) := by
  rw [forM_eq_insertAll_map addExternalReference_eq,
    forM_eq_insertAll_map addCoverage_eq, ← insertAll_append, when_insertAll,
    CityObject.referenceFragments]

mutual

/-- Writing an object adds its element and gives the notices of everything
below it. -/
theorem adds_addCityObject (o : Options) :
    ∀ (isRoot : Bool) (object : CityObject),
      Adds (addCityObject o isRoot object) s ()
        [(object.fragment s.isDeclared o isRoot).toNode s]
        (object.notices o isRoot)
  | isRoot, ⟨id, type, attributes, geometries, children, address, reference,
      coverage⟩ => by
    let object : CityObject := ⟨id, type, attributes, geometries, children,
      address, reference, coverage⟩
    have hgeometries := adds_forM (adds_addPlaced s o type id) geometries
    have hbody := (adds_addAttributes s attributes o.genericAttributes).seq
      ((adds_shownAppearances s o isRoot object).seq
        (hgeometries.seq ((adds_addChildren o children).seq
          ((adds_insertAll s (CityObject.addressFragments o address)).seq
            (adds_insertAll s
              (CityObject.referenceFragments o reference coverage))))))
    have h := hbody.element type.elementName type.thematicModule
      (Fragment.identity id)
    rw [addCityObject, writeIdentity_eq, addAddress_when, addReferences_when,
      CityObject.fragment, CityObject.notices, Fragment.toNode]
    simp only [bind_assoc] at h
    simpa only [Fragment.toNodes_eq_map, List.map_append, List.map_flatMap,
      List.append_assoc, List.nil_append, List.append_nil] using h

theorem adds_addChildren (o : Options) :
    ∀ children : List CityObject,
      Adds (addChildren o children) s ()
        (Fragment.toNodes s
          (CityObject.childFragments s.isDeclared o children))
        (CityObject.childNotices o children)
  | [] => adds_pure ()
  | child :: rest => by
    have hchild := (adds_addCityObject o false child).wrap "boundedBy"
      .building
    have h := hchild.seq (adds_addChildren o rest)
    simp only [bind_assoc] at h
    exact h

end

end Builder

/-! ## Models -/

namespace CityModel

open Builder

variable (s : Settings)

theorem adds_addMember (o : Options) (object : CityObject) :
    Adds (addMember o object) s ()
      [(memberFragment s.isDeclared o object).toNode s]
      (object.notices o true) :=
  (adds_addCityObject s o true object).wrap "cityObjectMember" .core

theorem adds_addExtent (m : CityModel) :
    Adds m.addExtent s ()
      (Fragment.toNodes s
        (if m.envelope.isDefined then [m.envelope.fragment] else []))
      (if m.envelope.isDefined then [] else [.envelopeLeftOut]) := by
  rw [addExtent, addEnvelope_eq]
  cases m.envelope.isDefined with
  | true => exact adds_insert s m.envelope.fragment
  | false => exact adds_note [.envelopeLeftOut]

/-- The document element of a model, when everything in it is closed. -/
def documentElement (s : Settings) (o : Options) (m : CityModel) :
    OpenElement where
  name := s.qualify "CityModel" .cityGml
  attributes := m.rootAttributes.foldl (fun l a => setAttribute a.1 a.2 l)
    s.declarationAttributes
  children := Fragment.toNodes s (m.fragments s.isDeclared o)

theorem adds_content (o : Options) (m : CityModel) :
    Adds (do
        Builder.addAttributes m.attributes o.genericAttributes
        m.addExtent
        m.objects.forM (addMember o)
        .note [.encoded m.objects.length]) s ()
      (Fragment.toNodes s (m.fragments s.isDeclared o)) (m.notices o) := by
  have hmembers := adds_forM_map (adds_addMember s o) m.objects
  have h := (adds_addAttributes s m.attributes o.genericAttributes).seq
    ((adds_addExtent s m).seq
      (hmembers.seq (adds_note [.encoded m.objects.length])))
  rw [fragments, notices]
  simpa only [Fragment.toNodes_eq_map, List.map_append, List.map_map,
    Function.comp_def, List.append_assoc, List.nil_append,
    List.append_nil] using h

/-- Building the document of a model succeeds on every builder, whatever the
builder held before, and leaves nothing but the document element open. -/
theorem run_build (o : Options) (m : CityModel) (b : Builder) :
    (m.build o).run b =
      ⟨.ok (), ⟨b.settings, [m.documentElement b.settings o], none⟩,
        m.namespaceNotice :: m.notices o⟩ := by
  let start : OpenElement :=
    ⟨b.settings.qualify "CityModel" .cityGml,
      b.settings.declarationAttributes, []⟩
  have hcreate : (createDocument "CityModel" .cityGml).run b =
      ⟨.ok (), ⟨b.settings, [start], none⟩, []⟩ := rfl
  have hattributes := run_writeAttributes b.settings start [] m.rootAttributes
  rw [rootAttributes, ← when_writeAttribute] at hattributes
  rw [build, Action.run_bind_noted (Action.run_note _ b)
    (Action.run_bind_noted hcreate (Action.run_bind_noted hattributes
      (adds_content b.settings o m _ [])))]
  rfl

end CityModel

end CityMarkup
