import CityMarkup.Proofs.Encoding.Identities
import Mathlib.Data.List.Flatten

/-!
# Identifiers kept apart

The entries of a document fall into those of materials and all others.  The
others are entries of parts of the model, each of a different part, so their
identifiers are as distinct as the model makes them.  The entries of materials
are counted: under one theme of one root object a material is entered once.
-/

namespace CityMarkup

/-! ## Two sorts of entries -/

/-- The identifiers that are not empty. -/
def named (ids : List String) : List String :=
  ids.filter fun id => !id.isEmpty

theorem named_append (ids more : List String) :
    named (ids ++ more) = named ids ++ named more :=
  List.filter_append ..

/-- The identifiers of the entries that are not those of materials. -/
def ownIds (entries : List (String × Option Node)) : List String :=
  (entries.filter fun e => e.2.isNone).map Prod.fst

/-- The entries of materials. -/
def ofMaterials (entries : List (String × Option Node)) :
    List (String × Option Node) :=
  entries.filter fun e => e.2.isSome

section Sorts

variable {entries more : List (String × Option Node)}

theorem ownIds_append :
    ownIds (entries ++ more) = ownIds entries ++ ownIds more := by
  rw [ownIds, List.filter_append, List.map_append]
  rfl

theorem ofMaterials_append :
    ofMaterials (entries ++ more) =
      ofMaterials entries ++ ofMaterials more :=
  List.filter_append ..

theorem ownEntry_eq_flatMap (id : String) :
    ownEntry id = [id].flatMap ownEntry :=
  (List.flatMap_singleton ownEntry id).symm

theorem ownIds_flatMap_ownEntry (ids : List String) :
    ownIds (ids.flatMap ownEntry) = named ids := by
  induction ids with
  | nil => rfl
  | cons id rest ih =>
      rw [List.flatMap_cons, ownIds_append, ih, named, named, ownEntry,
        List.filter_cons]
      cases id.isEmpty with
      | true => rfl
      | false => rfl

theorem ofMaterials_flatMap_ownEntry (ids : List String) :
    ofMaterials (ids.flatMap ownEntry) = [] := by
  rw [ofMaterials, List.filter_eq_nil_iff]
  intro e he
  obtain ⟨id, -, hid⟩ := List.mem_flatMap.mp he
  rw [ownEntry] at hid
  split at hid
  · cases hid
  · rw [List.mem_singleton.mp hid]
    exact Bool.false_ne_true

/-- Every entry is of one of the two sorts. -/
theorem count_entries (id : String) (entries : List (String × Option Node)) :
    (entries.map Prod.fst).count id =
      (ownIds entries).count id +
        ((ofMaterials entries).map Prod.fst).count id := by
  have hperm := List.filter_append_perm (fun e => e.2.isNone) entries
  have hcount := (hperm.map Prod.fst).count_eq id
  rw [List.map_append, List.count_append] at hcount
  rw [← hcount, ownIds, ofMaterials]
  simp only [Option.not_isNone]

end Sorts

/-! ## Entries of materials -/

section Materials

variable {s : Settings}

theorem Material.mem_entries_iff {m : Material} {e : String × Option Node} :
    e ∈ m.entries s ↔
      m.id ≠ "" ∧ e = (m.id, some (m.fragment.toNode s)) := by
  rw [entries]
  by_cases hid : m.id.isEmpty = true
  · rw [if_pos hid]
    have hempty := String.isEmpty_iff.mp hid
    simp [hempty]
  · rw [if_neg hid, List.mem_singleton]
    have hne : m.id ≠ "" := fun h => hid (String.isEmpty_iff.mpr h)
    exact (and_iff_right hne).symm

namespace CityObject

theorem mem_materialEntries_iff {object : CityObject}
    {e : String × Option Node} :
    e ∈ object.materialEntries s ↔
      ∃ theme ∈ object.themes, ∃ b ∈ object.firstMaterials theme,
        b.material.id ≠ "" ∧
          e = (b.material.id, some (b.material.fragment.toNode s)) := by
  simp only [materialEntries, List.mem_flatMap, Material.mem_entries_iff]

theorem ownIds_materialEntries (object : CityObject) :
    ownIds (object.materialEntries s) = [] := by
  have hnone : (object.materialEntries s).filter (fun e => e.2.isNone) =
      [] := by
    rw [List.filter_eq_nil_iff]
    intro e he
    obtain ⟨theme, -, b, -, -, rfl⟩ := mem_materialEntries_iff.mp he
    exact Bool.false_ne_true
  rw [ownIds, hnone, List.map_nil]

theorem ofMaterials_materialEntries (object : CityObject) :
    ofMaterials (object.materialEntries s) = object.materialEntries s := by
  rw [ofMaterials, List.filter_eq_self]
  intro e he
  obtain ⟨theme, -, b, -, -, rfl⟩ := mem_materialEntries_iff.mp he
  rfl

end CityObject

end Materials

/-! ## Entries of objects -/

theorem Geometry.allIds_eq_flatMap (gs : List Geometry) :
    Geometry.allIds gs = gs.flatMap Geometry.ids := by
  induction gs with
  | nil => rfl
  | cons g rest ih => rw [allIds, ih, List.flatMap_cons]

namespace CityObject

variable (s : Settings) (declared : Namespace → Bool) (o : Options)

mutual

/-- What is written of an object, apart from materials, has identifiers of the
object, in their order. -/
theorem ownIds_fragment : ∀ (isRoot : Bool) (object : CityObject),
    ∃ written, written.Sublist object.ids ∧
      ownIds (Fragment.entries s [object.fragment declared o isRoot]) =
        named written
  | isRoot, ⟨id, type, attributes, geometries, children, address, reference,
      coverage⟩ => by
    let object : CityObject := ⟨id, type, attributes, geometries, children,
      address, reference, coverage⟩
    obtain ⟨below, hbelow, hchildren⟩ := ownIds_childFragments children
    let linked := reference.toList.map ExternalReference.id ++
      coverage.toList.map GridCoverage.id
    let shown := if o.externalReferences then linked else []
    have hlinked : shown.Sublist linked := by
      simp only [shown]
      split
      · exact .refl linked
      · exact List.nil_sublist linked
    -- A geometry without a place is left out with all its identifiers.
    refine ⟨[id] ++ ((geometries.filter (Geometry.hasPlace o type)).flatMap
      Geometry.ids ++ (below ++ shown)), ?_, ?_⟩
    · have hplaced := (List.filter_sublist (l := geometries)
        (p := Geometry.hasPlace o type)).flatMap Geometry.ids
      rw [ids, Geometry.allIds_eq_flatMap, List.append_assoc,
        List.append_assoc]
      exact (hplaced.append (hbelow.append hlinked)).cons_cons id
    · have hmaterials : ownIds (if isRoot && o.appearances then
          object.materialEntries s else []) = [] := by
        split
        · exact ownIds_materialEntries object
        · rfl
      have hshown : (if o.externalReferences then linked.flatMap ownEntry
          else []) = shown.flatMap ownEntry := by
        simp only [shown]
        split
        · rfl
        · rfl
      rw [entries_fragment, ownEntry_eq_flatMap id, ownIds_append,
        ownIds_append, ownIds_append, ownIds_append, hmaterials, hchildren,
        hshown, ← List.flatMap_assoc, ownIds_flatMap_ownEntry,
        ownIds_flatMap_ownEntry, ownIds_flatMap_ownEntry]
      simp only [named_append, List.nil_append]

theorem ownIds_childFragments : ∀ children : List CityObject,
    ∃ written, written.Sublist (allIds children) ∧
      ownIds (Fragment.entries s (childFragments declared o children)) =
        named written
  | [] => ⟨[], .slnil, rfl⟩
  | child :: rest => by
    obtain ⟨first, hfirst, hchild⟩ := ownIds_fragment false child
    obtain ⟨others, hothers, hrest⟩ := ownIds_childFragments rest
    refine ⟨first ++ others, ?_, ?_⟩
    · rw [allIds]
      exact hfirst.append hothers
    · rw [childFragments, Fragment.entries_cons, Fragment.entries_wrap,
        ownIds_append, hchild, hrest, named_append]

end

mutual

/-- Only root objects are entered with materials. -/
theorem ofMaterials_fragment : ∀ (isRoot : Bool) (object : CityObject),
    ofMaterials (Fragment.entries s [object.fragment declared o isRoot]) =
      if isRoot && o.appearances then object.materialEntries s else []
  | isRoot, ⟨id, type, attributes, geometries, children, address, reference,
      coverage⟩ => by
    let object : CityObject := ⟨id, type, attributes, geometries, children,
      address, reference, coverage⟩
    have hshown : ofMaterials (if isRoot && o.appearances then
        object.materialEntries s else []) =
        if isRoot && o.appearances then object.materialEntries s else [] := by
      split
      · exact ofMaterials_materialEntries object
      · rfl
    have hlinked : ∀ ids : List String, ofMaterials
        (if o.externalReferences then ids.flatMap ownEntry else []) = [] := by
      intro ids
      split
      · exact ofMaterials_flatMap_ownEntry ids
      · rfl
    rw [entries_fragment, ownEntry_eq_flatMap id, ofMaterials_append,
      ofMaterials_append, ofMaterials_append, ofMaterials_append, hshown,
      hlinked,
      ofMaterials_childFragments children, ← List.flatMap_assoc,
      ofMaterials_flatMap_ownEntry, ofMaterials_flatMap_ownEntry]
    simp only [List.nil_append, List.append_nil]
    rfl

theorem ofMaterials_childFragments : ∀ children : List CityObject,
    ofMaterials (Fragment.entries s (childFragments declared o children)) = []
  | [] => rfl
  | child :: rest => by
    rw [childFragments, Fragment.entries_cons, Fragment.entries_wrap,
      ofMaterials_append, ofMaterials_fragment false child,
      ofMaterials_childFragments rest]
    rfl

end

end CityObject

/-! ## How often a material is written -/

/-- Under a theme each key that comes up is marked once. -/
theorem count_written_markFirst {α : Type} (key : α → String)
    (known : List String) (items : List α) (k : String) :
    ((ThemedAppearances.written
      (ThemedAppearances.markFirst key known items)).map key).count k =
      if k ∉ known ∧ k ∈ items.map key then 1 else 0 := by
  induction items generalizing known with
  | nil => simp [ThemedAppearances.markFirst, ThemedAppearances.written]
  | cons item rest ih =>
      rw [ThemedAppearances.markFirst]
      by_cases hknown : known.contains (key item) = true
      · have hmem : key item ∈ known := List.contains_iff_mem.mp hknown
        have hwritten : ThemedAppearances.written
            ((false, item) :: ThemedAppearances.markFirst key known rest) =
            ThemedAppearances.written
              (ThemedAppearances.markFirst key known rest) := rfl
        rw [if_pos hknown, hwritten, ih]
        refine if_congr ?_ rfl rfl
        rw [List.map_cons, List.mem_cons]
        constructor
        · rintro ⟨hnot, hrest⟩
          exact ⟨hnot, Or.inr hrest⟩
        · rintro ⟨hnot, rfl | hrest⟩
          · exact absurd hmem hnot
          · exact ⟨hnot, hrest⟩
      · have hmem : key item ∉ known :=
          fun h => hknown (List.contains_iff_mem.mpr h)
        have hwritten : ThemedAppearances.written ((true, item) ::
            ThemedAppearances.markFirst key (key item :: known) rest) =
            item :: ThemedAppearances.written
              (ThemedAppearances.markFirst key (key item :: known) rest) :=
          rfl
        rw [if_neg hknown, hwritten, List.map_cons, List.count_cons, ih,
          List.map_cons]
        by_cases hk : key item = k
        · subst hk
          simp [hmem]
        · have hk' : k ≠ key item := Ne.symm hk
          simp [hk, hk']

namespace CityObject

/-- Whether a material with a given identifier is bound for a theme. -/
def shows (object : CityObject) (id theme : String) : Bool :=
  (object.materialsFor theme).any fun b => b.material.id == id

theorem count_firstMaterials (object : CityObject) (id theme : String) :
    ((object.firstMaterials theme).map fun b => b.material.id).count id =
      if object.shows id theme then 1 else 0 := by
  rw [firstMaterials, ← ThemedAppearances.written_markFirst_nil,
    count_written_markFirst]
  refine if_congr ?_ rfl rfl
  rw [shows, List.any_eq_true, List.mem_map,
    and_iff_right List.not_mem_nil]
  simp only [beq_iff_eq]

theorem count_materialEntries (s : Settings) (object : CityObject)
    {id : String} (h : id ≠ "") :
    ((object.materialEntries s).map Prod.fst).count id =
      object.themes.countP (object.shows id) := by
  have hmaterial : ∀ bindings : List MaterialBinding,
      ((bindings.flatMap fun b => b.material.entries s).map
        Prod.fst).count id =
        (bindings.map fun b => b.material.id).count id := by
    intro bindings
    induction bindings with
    | nil => rfl
    | cons b rest ih =>
        rw [List.flatMap_cons, List.map_append, List.count_append, ih,
          List.map_cons, List.count_cons, Material.entries, Nat.add_comm]
        by_cases hid : b.material.id.isEmpty = true
        · have hne : b.material.id ≠ id := by
            rw [String.isEmpty_iff.mp hid]
            exact Ne.symm h
          rw [if_pos hid, if_neg (by simpa using hne)]
          rfl
        · rw [if_neg hid, List.map_singleton, List.count_singleton]
  rw [materialEntries]
  induction object.themes with
  | nil => rfl
  | cons theme rest ih =>
      rw [List.flatMap_cons, List.map_append, List.count_append, ih,
        hmaterial, count_firstMaterials, List.countP_cons, Nat.add_comm]

end CityObject

namespace CityModel

/-- The identifiers of everything in a model but the materials. -/
def ids (m : CityModel) : List String :=
  CityObject.allIds m.objects

/-- The materials that are bound anywhere in a model. -/
def materials (m : CityModel) : List Material :=
  m.objects.flatMap fun object => object.targets.flatMap fun b =>
    b.materials.values.map MaterialBinding.material

/-- The number of root objects and themes that a material with a given
identifier is bound for. -/
def showings (m : CityModel) (id : String) : Nat :=
  (m.objects.flatMap fun object =>
    object.themes.filter (object.shows id)).length

/-- Whether the identifiers of a model are kept apart: no two parts share one,
no part shares one with a material, and a material is told by its own. -/
structure IdsApart (m : CityModel) : Prop where
  own : (m.ids.filter fun id => !id.isEmpty).Nodup
  apart : ∀ id ∈ m.ids, id ≠ "" → ∀ material ∈ m.materials, material.id ≠ id
  equal : ∀ a ∈ m.materials, ∀ b ∈ m.materials, a.id = b.id → a = b

/-! ## Entries of models -/

section Entries

variable (s : Settings) (declared : Namespace → Bool) (o : Options)
  (m : CityModel)

theorem entries_fragments :
    Fragment.entries s (m.fragments declared o) =
      m.objects.flatMap fun object =>
        Fragment.entries s [object.fragment declared o true] := by
  rw [fragments, Fragment.entries_append, Fragment.entries_append,
    Attributes.entries_fragments, Fragment.entries_ite,
    Envelope.entries_fragment, ite_self, Fragment.entries_map]
  simp only [memberFragment, Fragment.entries_wrap, List.nil_append]

theorem ownIds_fragments :
    ∃ written, written.Sublist m.ids ∧
      ownIds (Fragment.entries s (m.fragments declared o)) =
        named written := by
  rw [entries_fragments, ids]
  induction m.objects with
  | nil => exact ⟨[], .slnil, rfl⟩
  | cons object rest ih =>
      obtain ⟨first, hfirst, hobject⟩ :=
        object.ownIds_fragment s declared o true
      obtain ⟨others, hothers, hrest⟩ := ih
      refine ⟨first ++ others, ?_, ?_⟩
      · rw [CityObject.allIds]
        exact hfirst.append hothers
      · rw [List.flatMap_cons, ownIds_append, hobject, hrest, named_append]

theorem ofMaterials_fragments :
    ofMaterials (Fragment.entries s (m.fragments declared o)) =
      if o.appearances then
        m.objects.flatMap (CityObject.materialEntries s)
      else [] := by
  rw [entries_fragments]
  induction m.objects with
  | nil => rw [List.flatMap_nil, List.flatMap_nil, ite_self]; rfl
  | cons object rest ih =>
      rw [List.flatMap_cons, ofMaterials_append, ih,
        CityObject.ofMaterials_fragment, Bool.true_and]
      split
      · rfl
      · rfl

theorem mem_materials_of_mem_entries {e : String × Option Node}
    (h : e ∈ m.objects.flatMap (CityObject.materialEntries s)) :
    ∃ material ∈ m.materials, material.id ≠ "" ∧
      e = (material.id, some (material.fragment.toNode s)) := by
  obtain ⟨object, hobject, he⟩ := List.mem_flatMap.mp h
  obtain ⟨theme, -, b, hb, hid, rfl⟩ :=
    CityObject.mem_materialEntries_iff.mp he
  obtain ⟨bindings, hbindings, hbound⟩ :=
    List.mem_flatMap.mp (mem_of_mem_firsts hb)
  have hvalue := Sided.mem_values_of_mem_boundFor hbound
  have hmaterial : b.material ∈ m.materials :=
    List.mem_flatMap.mpr ⟨object, hobject,
      List.mem_flatMap.mpr ⟨bindings, hbindings,
        List.mem_map_of_mem hvalue⟩⟩
  exact ⟨b.material, hmaterial, hid, rfl⟩

theorem count_materialEntries {id : String} (h : id ≠ "") :
    ((m.objects.flatMap (CityObject.materialEntries s)).map
      Prod.fst).count id = m.showings id := by
  rw [showings]
  induction m.objects with
  | nil => rfl
  | cons object rest ih =>
      rw [List.flatMap_cons, List.map_append, List.count_append, ih,
        CityObject.count_materialEntries s object h, List.flatMap_cons,
        List.length_append, List.countP_eq_length_filter]

end Entries

/-! ## Identifiers of documents -/

section Documents

variable (o : Options) (m : CityModel)

/-- The document element has no identifier of its own. -/
theorem identified_encodedRoot :
    (m.encodedRoot o).toNode.identified =
      Node.allIdentified (m.encodedRoot o).children := by
  have hnone : (m.encodedRoot o).attributes.lookup "gml:id" = none := by
    have hdeclaration : ∀ ns ∈ Namespace.all, ∀ a ∈ ns.declaration?,
        a.1 ≠ "gml:id" := by
      decide +kernel
    have hfixed : "gml:id" ∉ fixedNames := by decide
    rw [List.lookup_eq_none_iff]
    intro a ha
    rw [bne_iff_ne]
    intro hid
    rcases mem_attributes_documentElement ha with hname | ⟨ns, hns⟩
    · rw [← hid] at hname
      exact hfixed hname
    · exact hdeclaration ns (Namespace.mem_all ns) a hns hid.symm
  rw [OpenElement.toNode, Node.identified, hnone]
  rfl

theorem map_entry_encodedRoot :
    (m.encodedRoot o).toNode.identified.map Node.entry =
      Fragment.entries (m.settings o)
        (m.fragments (m.settings o).isDeclared o) := by
  rw [identified_encodedRoot]
  rfl

theorem map_fst_encodedRoot :
    (m.encodedRoot o).toNode.identified.map Prod.fst =
      ((m.encodedRoot o).toNode.identified.map Node.entry).map Prod.fst := by
  rw [List.map_map]
  rfl

variable {o m}

theorem ownIds_encodedRoot :
    ownIds ((m.encodedRoot o).toNode.identified.map Node.entry) =
      ((m.encodedRoot o).toNode.identified.filter
        fun found => !found.2.isMaterial).map Prod.fst := by
  have hentry : ∀ found : String × Node,
      (Node.entry found).2.isNone = !found.2.isMaterial := by
    intro found
    rw [Node.entry]
    cases found.2.isMaterial with
    | true => rfl
    | false => rfl
  rw [ownIds, List.filter_map, List.map_map]
  simp only [Function.comp_def, hentry]
  rfl

/-- An element that is no material has the identifier of a part. -/
theorem mem_ids_of_identified {found : String × Node}
    (h : found ∈ (m.encodedRoot o).toNode.identified)
    (hmaterial : found.2.isMaterial = false) :
    found.1 ∈ m.ids ∧ found.1 ≠ "" := by
  obtain ⟨written, hwritten, hown⟩ :=
    m.ownIds_fragments (m.settings o) (m.settings o).isDeclared o
  have hmem : found.1 ∈ named written := by
    rw [← hown, ← map_entry_encodedRoot, ownIds_encodedRoot]
    apply List.mem_map_of_mem
    rw [List.mem_filter, hmaterial]
    exact ⟨h, rfl⟩
  obtain ⟨hids, hne⟩ := List.mem_filter.mp hmem
  refine ⟨hwritten.subset hids, ?_⟩
  intro heq
  rw [heq] at hne
  revert hne
  decide

/-- An element of a material shows a material of the model. -/
theorem mem_materials_of_identified {found : String × Node}
    (h : found ∈ (m.encodedRoot o).toNode.identified)
    (hmaterial : found.2.isMaterial = true) :
    ∃ material ∈ m.materials, material.id ≠ "" ∧
      found = (material.id, material.fragment.toNode (m.settings o)) := by
  have hentry : Node.entry found = (found.1, some found.2) := by
    rw [Node.entry, if_pos hmaterial]
  have hmem : (found.1, some found.2) ∈ ofMaterials
      (Fragment.entries (m.settings o)
        (m.fragments (m.settings o).isDeclared o)) := by
    rw [ofMaterials, List.mem_filter, ← map_entry_encodedRoot, ← hentry]
    exact ⟨List.mem_map_of_mem h, by rw [hentry]; rfl⟩
  rw [ofMaterials_fragments] at hmem
  split at hmem
  · obtain ⟨material, hm, hid, heq⟩ := m.mem_materials_of_mem_entries _ hmem
    obtain ⟨hfst, hsnd⟩ := Prod.mk.inj heq
    exact ⟨material, hm, hid, Prod.ext hfst (Option.some.inj hsnd)⟩
  · cases hmem

theorem IdsApart.nodup_ownIds (h : m.IdsApart) :
    (ownIds ((m.encodedRoot o).toNode.identified.map Node.entry)).Nodup := by
  obtain ⟨written, hwritten, hown⟩ :=
    m.ownIds_fragments (m.settings o) (m.settings o).isDeclared o
  rw [map_entry_encodedRoot, hown]
  exact (hwritten.filter _).nodup h.own

/-- Elements that share an identifier show the same material. -/
theorem IdsApart.pairwise_identified (h : m.IdsApart) :
    (m.encodedRoot o).toNode.identified.Pairwise fun a b =>
      a.1 = b.1 → a.2 = b.2 ∧ a.2.isNamed "app:Material" = true := by
  have hdeclared :=
    (m.declaresFor_settings o).always .appearance (by decide)
  have hnodup := h.nodup_ownIds (o := o)
  rw [ownIds_encodedRoot, List.Nodup, List.pairwise_map,
    List.pairwise_filter] at hnodup
  refine hnodup.imp_of_mem fun {a b} ha hb hdistinct heq => ?_
  -- Two parts are distinct and a part is apart from a material, so both
  -- elements are those of materials, which the identifier tells.
  cases hafirst : a.2.isMaterial with
  | false =>
      obtain ⟨hid, hne⟩ := mem_ids_of_identified ha hafirst
      cases hbfirst : b.2.isMaterial with
      | false =>
          exact absurd heq (hdistinct (by rw [hafirst]; rfl)
            (by rw [hbfirst]; rfl))
      | true =>
          obtain ⟨material, hmaterial, -, rfl⟩ :=
            mem_materials_of_identified hb hbfirst
          exact absurd heq.symm (h.apart a.1 hid hne material hmaterial)
  | true =>
      obtain ⟨material, hmaterial, -, rfl⟩ :=
        mem_materials_of_identified ha hafirst
      cases hbfirst : b.2.isMaterial with
      | false =>
          obtain ⟨hid, hne⟩ := mem_ids_of_identified hb hbfirst
          exact absurd heq (h.apart b.1 hid hne material hmaterial)
      | true =>
          obtain ⟨other, hother, -, rfl⟩ :=
            mem_materials_of_identified hb hbfirst
          have hsame := h.equal material hmaterial other hother heq
          obtain ⟨content, hnode⟩ :=
            Material.exists_toNode_fragment hdeclared other
          rw [hsame, hnode]
          exact ⟨rfl, rfl⟩

/-- A material is written for each root object and theme it is bound for. -/
theorem IdsApart.count_identified (h : m.IdsApart) {material : Material}
    (hmaterial : material ∈ m.materials) (hne : material.id ≠ "") :
    ((m.encodedRoot o).toNode.identified.map Prod.fst).count material.id =
      if o.appearances then m.showings material.id else 0 := by
  have hown : (ownIds ((m.encodedRoot o).toNode.identified.map
      Node.entry)).count material.id = 0 := by
    rw [List.count_eq_zero, ownIds_encodedRoot]
    intro hmem
    obtain ⟨found, hfound, hid⟩ := List.mem_map.mp hmem
    obtain ⟨hidentified, hother⟩ := List.mem_filter.mp hfound
    have hids := mem_ids_of_identified hidentified
      (Bool.eq_false_iff.mpr fun htrue => by simp [htrue] at hother)
    exact h.apart found.1 hids.1 hids.2 material hmaterial hid.symm
  rw [map_fst_encodedRoot, count_entries, hown, map_entry_encodedRoot,
    ofMaterials_fragments, Nat.zero_add]
  split
  · exact m.count_materialEntries _ hne
  · rfl

/-- The identifiers of a document are distinct exactly when no material is shown
twice. -/
theorem IdsApart.nodup_identified_iff (h : m.IdsApart) :
    ((m.encodedRoot o).toNode.identified.map Prod.fst).Nodup ↔
      (o.appearances = true → ∀ material ∈ m.materials, material.id ≠ "" →
        m.showings material.id ≤ 1) := by
  constructor
  · intro hnodup hshown material hmaterial hne
    have hcount := h.count_identified (o := o) hmaterial hne
    rw [if_pos hshown] at hcount
    rw [← hcount]
    exact List.nodup_iff_count.mp hnodup material.id
  · intro honce
    rw [List.nodup_iff_count]
    intro id
    by_cases hmaterial : ∃ material ∈ m.materials,
        material.id ≠ "" ∧ material.id = id
    · obtain ⟨material, hmaterial, hne, rfl⟩ := hmaterial
      rw [h.count_identified hmaterial hne]
      split
      · rename_i hshown
        exact honce hshown material hmaterial hne
      · exact Nat.zero_le 1
    · -- Only parts are written under this identifier, and each has its own.
      have hnone : ((ofMaterials (Fragment.entries (m.settings o)
          (m.fragments (m.settings o).isDeclared o))).map
            Prod.fst).count id = 0 := by
        rw [List.count_eq_zero, ofMaterials_fragments]
        intro hmem
        obtain ⟨e, he, rfl⟩ := List.mem_map.mp hmem
        split at he
        · obtain ⟨material, hm, hne, rfl⟩ :=
            m.mem_materials_of_mem_entries _ he
          exact hmaterial ⟨material, hm, hne, rfl⟩
        · cases he
      rw [map_fst_encodedRoot, count_entries, map_entry_encodedRoot, hnone,
        Nat.add_zero, ← map_entry_encodedRoot]
      exact List.nodup_iff_count.mp h.nodup_ownIds id

end Documents

end CityModel

/-- With valid options, elements of the document share an identifier only if
they are elements of the same material, of which there is one for each root
object and theme that the material is bound for.  The identifiers are hence
distinct exactly when no material is bound for more than one of these, or
appearances are left out. -/
theorem Writer.encode_identifies (w : Writer) (m : CityModel)
    (hvalid : w.options.validate = .ok ()) (hapart : m.IdsApart) :
    ∃ root, ((encode m).run w).state.builder.stack = [root] ∧
      (root.toNode.identified.Pairwise fun a b =>
        a.1 = b.1 → a.2 = b.2 ∧ a.2.isNamed "app:Material" = true) ∧
      (∀ material ∈ m.materials, material.id ≠ "" →
        (root.toNode.identified.map Prod.fst).count material.id =
          if w.options.appearances then m.showings material.id else 0) ∧
      ((root.toNode.identified.map Prod.fst).Nodup ↔
        (w.options.appearances = true → ∀ material ∈ m.materials,
          material.id ≠ "" → m.showings material.id ≤ 1)) := by
  refine ⟨m.encodedRoot w.options, ?_, hapart.pairwise_identified,
    fun material => hapart.count_identified, hapart.nodup_identified_iff⟩
  rw [run_encode_ok hvalid]
  rfl

/-- Two materials of a house, each of them for one theme, are written once. -/
theorem Writer.encode_identifies_painted :
    ∃ root, ((encode .painted).run (.new .standard)).state.builder.stack =
        [root] ∧
      (root.toNode.identified.map Prod.fst).count "tiles" = 1 ∧
      (root.toNode.identified.map Prod.fst).Nodup := by
  have hapart : CityModel.painted.IdsApart :=
    ⟨by decide +kernel, by decide +kernel, by decide +kernel⟩
  obtain ⟨root, hstack, -, hcount, hnodup⟩ :=
    encode_identifies (.new .standard) .painted Options.validate_standard
      hapart
  have htiles : Material.plain "tiles" ∈ CityModel.painted.materials := by
    decide +kernel
  have honce : CityModel.painted.showings "tiles" = 1 := by decide +kernel
  refine ⟨root, hstack, ?_, hnodup.mpr fun _ => ?_⟩
  · exact (hcount (.plain "tiles") htiles (by decide)).trans honce
  · decide +kernel

/-- A house whose roof has the same tiles in summer and in winter. -/
def CityModel.seasons : CityModel :=
  let bound : Bindings := (Bindings.empty.addMaterial "summer" .front
    ⟨"roof", .plain "tiles"⟩).addMaterial "winter" .front
      ⟨"roof", .plain "tiles"⟩
  ⟨"", none, .unset, .empty,
    [⟨"house", .building, .empty,
      [⟨"roof", 2, .roof, [⟨"left", none, [], .empty⟩], [], [], bound⟩], [],
      none, none, none⟩]⟩

/-- A material that is bound for two themes is written under both, and its
identifier with it. -/
theorem Writer.encode_identifies_seasons :
    Options.standard.validate = .ok () ∧ CityModel.seasons.IdsApart ∧
      ∃ root, ((encode .seasons).run (.new .standard)).state.builder.stack =
          [root] ∧
        ¬(root.toNode.identified.map Prod.fst).Nodup := by
  refine ⟨Options.validate_standard,
    ⟨by decide +kernel, by decide +kernel, by decide +kernel⟩,
    CityModel.seasons.encodedRoot .standard, ?_, by decide +kernel⟩
  exact congrArg (fun done => done.state.builder.stack)
    (run_encode_ok (w := .new .standard) Options.validate_standard .seasons)

end CityMarkup
