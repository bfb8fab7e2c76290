import CityMarkup.Proofs.Namespaces.Coverage
import Mathlib.Data.List.Perm.Subperm

/-!
# Exact declarations

The document element of an encoded model binds the prefixes of the namespaces
that its objects use and names the schemas of their modules, in the order of
the namespaces, and no others.  What is used is decided by what occurs at some
depth.  So neither the order of objects that stand next to each other nor the
options have any influence on it.
-/

namespace CityMarkup

/-! ## What objects use -/

namespace Namespace

/-- Whether a namespace is the thematic module of an object at some depth. -/
def IsModuleOf (ns : Namespace) (objects : List CityObject) : Prop :=
  ∃ p ∈ CityObject.forest objects, p.type.thematicModule = ns

/-- Whether the prefix of a namespace is bound for some objects.  Objects below
another and addresses stand in elements of the building module. -/
def IsUsedBy (ns : Namespace) (objects : List CityObject) : Prop :=
  ns ∈ [gml, core, generics, appearance, xsi, xlink] ∨
    ns.IsModuleOf objects ∨
    (ns = building ∧ ∃ p ∈ CityObject.forest objects,
      p.children ≠ [] ∨ p.address.isSome = true) ∨
    (ns = xal ∧ ∃ p ∈ CityObject.forest objects, p.address.isSome = true)

/-- Whether the schema of a namespace is named for some objects. -/
def HasSchemaFor (ns : Namespace) (objects : List CityObject) : Prop :=
  ns ∈ [generics, appearance] ∨ ns.IsModuleOf objects

instance (ns : Namespace) (objects : List CityObject) :
    Decidable (ns.IsModuleOf objects) :=
  inferInstanceAs (Decidable (∃ p ∈ CityObject.forest objects, _))

instance (ns : Namespace) (objects : List CityObject) :
    Decidable (ns.IsUsedBy objects) :=
  inferInstanceAs (Decidable (_ ∨ _ ∨
    (_ ∧ ∃ p ∈ CityObject.forest objects, _ ∨ _) ∨
    (_ ∧ ∃ p ∈ CityObject.forest objects, _)))

instance (ns : Namespace) (objects : List CityObject) :
    Decidable (ns.HasSchemaFor objects) :=
  inferInstanceAs (Decidable (_ ∨ ns.IsModuleOf objects))

/-- The namespaces whose prefixes are bound for some objects, in order. -/
def usedBy (objects : List CityObject) : List Namespace :=
  all.filter fun ns => ns.IsUsedBy objects

/-- The namespaces whose schemas are named for some objects, in order. -/
def withSchemaFor (objects : List CityObject) : List Namespace :=
  all.filter fun ns => ns.HasSchemaFor objects

theorem mem_usedBy {ns : Namespace} {objects : List CityObject} :
    ns ∈ usedBy objects ↔ ns.IsUsedBy objects := by
  rw [usedBy, List.mem_filter, decide_eq_true_iff]
  exact and_iff_right ns.mem_all

theorem mem_withSchemaFor {ns : Namespace} {objects : List CityObject} :
    ns ∈ withSchemaFor objects ↔ ns.HasSchemaFor objects := by
  rw [withSchemaFor, List.mem_filter, decide_eq_true_iff]
  exact and_iff_right ns.mem_all

theorem HasSchemaFor.isUsedBy {ns : Namespace} {objects : List CityObject}
    (h : ns.HasSchemaFor objects) : ns.IsUsedBy objects := by
  rcases h with halways | hmodule
  · have key : ∀ ns ∈ [generics, appearance],
        ns ∈ [gml, core, generics, appearance, xsi, xlink] := by
      decide
    exact Or.inl (key ns halways)
  · exact Or.inr (Or.inl hmodule)

theorem IsModuleOf.schemaLocation_isSome {ns : Namespace}
    {objects : List CityObject} (h : ns.IsModuleOf objects) :
    ns.schemaLocation.isSome = true := by
  have key : ∀ type ∈ FeatureType.all,
      type.thematicModule.schemaLocation.isSome = true := by
    decide +kernel
  obtain ⟨p, -, rfl⟩ := h
  exact key p.type p.type.mem_all

theorem HasSchemaFor.schemaLocation_isSome {ns : Namespace}
    {objects : List CityObject} (h : ns.HasSchemaFor objects) :
    ns.schemaLocation.isSome = true := by
  rcases h with halways | hmodule
  · have key : ∀ ns ∈ [generics, appearance],
        ns.schemaLocation.isSome = true := by
      decide
    exact key ns halways
  · exact hmodule.schemaLocation_isSome

theorem IsUsedBy.abbreviation_isSome {ns : Namespace}
    {objects : List CityObject} (h : ns.IsUsedBy objects) :
    ns.abbreviation.isSome = true := by
  apply Namespace.abbreviation_isSome
  rintro rfl
  rcases h with halways | ⟨p, -, hp⟩ | ⟨⟨⟩, -⟩ | ⟨⟨⟩, -⟩
  · revert halways
    decide
  · exact p.type.thematicModule_ne hp

end Namespace

theorem CityObject.needs_iff (p : CityObject) (ns : Namespace) :
    p.needs ns = true ↔
      p.type.thematicModule = ns ∨
        (ns = .building ∧ (p.children ≠ [] ∨ p.address.isSome = true)) ∨
        (ns = .xal ∧ p.address.isSome = true) := by
  simp [needs, eq_comm (a := ns), or_assoc]

theorem Namespace.isUsedBy_iff (m : CityModel) (ns : Namespace) :
    ns.IsUsedBy m.objects ↔
      (NamespaceUsage.collect m).namespaces.contains ns = true := by
  have halways : ns ∈ [gml, core, generics, appearance, xsi, xlink] ↔
      NamespaceUsage.always.contains ns = true := by
    rw [List.contains_iff_mem]
    cases ns <;> decide
  rw [NamespaceUsage.contains_collect, Bool.or_eq_true, List.any_eq_true,
    IsUsedBy, halways]
  constructor
  · rintro (h | ⟨p, hp, hmodule⟩ | ⟨hns, p, hp, hbelow⟩ |
      ⟨hns, p, hp, haddress⟩)
    · exact Or.inl h
    · exact Or.inr ⟨p, hp, (p.needs_iff ns).mpr (Or.inl hmodule)⟩
    · have hneeds := (p.needs_iff ns).mpr (Or.inr (Or.inl ⟨hns, hbelow⟩))
      exact Or.inr ⟨p, hp, hneeds⟩
    · have hneeds := (p.needs_iff ns).mpr (Or.inr (Or.inr ⟨hns, haddress⟩))
      exact Or.inr ⟨p, hp, hneeds⟩
  · rintro (h | ⟨p, hp, hneeds⟩)
    · exact Or.inl h
    · right
      rcases (p.needs_iff ns).mp hneeds with hmodule | ⟨hns, hbelow⟩ |
        ⟨hns, haddress⟩
      · exact Or.inl ⟨p, hp, hmodule⟩
      · exact Or.inr (Or.inl ⟨hns, p, hp, hbelow⟩)
      · exact Or.inr (Or.inr ⟨hns, p, hp, haddress⟩)

theorem Namespace.hasSchemaFor_iff (m : CityModel) (ns : Namespace) :
    ns.HasSchemaFor m.objects ↔
      (NamespaceUsage.collect m).schemaLocations.contains ns = true := by
  rw [NamespaceUsage.contains_schemaLocations_collect]
  simp [HasSchemaFor, IsModuleOf, eq_comm (a := ns), or_assoc]

/-! ## Declarations of an element -/

/-- Whether an attribute binds a prefix. -/
def bindsPrefix (a : String × String) : Bool :=
  "xmlns:".toList.isPrefixOf a.1.toList

/-- The identifier of a namespace and the place of its schema, if it has
one. -/
def Namespace.schemaPair? (ns : Namespace) : Option String :=
  ns.schemaLocation.map fun location => ns.uri ++ " " ++ location

/-- Whether the attributes of an element declare what some objects use and
nothing else: the prefixes of the used namespaces, in the order of the
namespaces, and the schemas of some of them, in this order too. -/
structure DeclaresExactly (objects : List CityObject)
    (attributes : List (String × String)) : Prop where
  prefixes : (attributes.filter bindsPrefix).map some =
    (Namespace.usedBy objects).map Namespace.declaration?
  schemas : ∃ pairs : List String,
    pairs.map some =
      (Namespace.withSchemaFor objects).map Namespace.schemaPair? ∧
    attributes.lookup "xsi:schemaLocation" = some (" ".intercalate pairs)
  bound : ∀ ns : Namespace, ns.HasSchemaFor objects →
    ∃ a ∈ attributes, ns.declaration? = some a

theorem Namespace.IsUsedBy.declaration_isSome {ns : Namespace}
    {objects : List CityObject} (h : ns.IsUsedBy objects) :
    ns.declaration?.isSome = true := by
  rw [declaration?, Option.isSome_map]
  exact h.abbreviation_isSome

theorem Namespace.HasSchemaFor.schemaPair_isSome {ns : Namespace}
    {objects : List CityObject} (h : ns.HasSchemaFor objects) :
    ns.schemaPair?.isSome = true := by
  rw [schemaPair?, Option.isSome_map]
  exact h.schemaLocation_isSome

theorem bindsPrefix_declaration {ns : Namespace} {a : String × String}
    (h : ns.declaration? = some a) : bindsPrefix a = true := by
  have key : ∀ ns ∈ Namespace.all, ∀ a ∈ ns.declaration?,
      bindsPrefix a = true := by
    decide +kernel
  exact key ns ns.mem_all a h

theorem filter_bindsPrefix_of_fixed {attributes : List (String × String)}
    (h : ∀ a ∈ attributes, a.1 ∈ fixedNames) :
    attributes.filter bindsPrefix = [] := by
  have key : ∀ name ∈ fixedNames,
      ¬"xmlns:".toList.isPrefixOf name.toList = true := by
    decide
  exact List.filter_eq_nil_iff.mpr fun a ha => key a.1 (h a ha)

/-- A set of namespaces lists those that belong to it. -/
theorem NamespaceSet.members_eq_filter (s : NamespaceSet) :
    s.members = Namespace.all.filter s.contains := by
  have hself : s.members.filter s.contains = s.members :=
    List.filter_eq_self.mpr fun ns hns => List.contains_iff_mem.mpr hns
  have hsublist := s.ordered.filter s.contains
  rw [hself] at hsublist
  have hnodup : (Namespace.all.filter s.contains).Nodup :=
    Namespace.nodup_all.filter s.contains
  have hsubset : Namespace.all.filter s.contains ⊆ s.members :=
    fun ns hns => List.contains_iff_mem.mp (List.mem_filter.mp hns).2
  exact hsublist.eq_of_length_le (List.Nodup.subperm hnodup hsubset).length_le

theorem map_some_filterMap {α β : Type} {f : α → Option β} {l : List α}
    (h : ∀ a ∈ l, (f a).isSome = true) :
    (l.filterMap f).map some = l.map f := by
  induction l with
  | nil => rfl
  | cons a rest ih =>
      obtain ⟨hfirst, hrest⟩ := List.forall_mem_cons.mp h
      obtain ⟨b, hb⟩ := Option.isSome_iff_exists.mp hfirst
      rw [List.filterMap_cons_some hb, List.map_cons, List.map_cons, hb,
        ih hrest]

namespace CityModel

variable (o : Options) (m : CityModel)

theorem members_settings :
    (m.settings o).namespaces.members = Namespace.usedBy m.objects := by
  rw [NamespaceSet.members_eq_filter]
  apply List.filter_congr
  intro ns _
  rw [Bool.eq_iff_iff, decide_eq_true_iff, contains_namespaces_settings,
    Bool.and_eq_true, ← ns.isUsedBy_iff m]
  exact and_iff_right_of_imp fun h => h.abbreviation_isSome

theorem members_schemaLocations_collect :
    (NamespaceUsage.collect m).schemaLocations.members =
      Namespace.withSchemaFor m.objects := by
  rw [NamespaceSet.members_eq_filter]
  apply List.filter_congr
  intro ns _
  rw [Bool.eq_iff_iff, decide_eq_true_iff, ns.hasSchemaFor_iff m]

theorem schemaLocation_collect :
    ∃ pairs : List String,
      pairs.map some =
        (Namespace.withSchemaFor m.objects).map Namespace.schemaPair? ∧
      (NamespaceUsage.collect m).schemaLocation =
        some (" ".intercalate pairs) := by
  have hpairs : ∀ ns ∈ Namespace.withSchemaFor m.objects,
      ns.schemaPair?.isSome = true :=
    fun ns hns => (Namespace.mem_withSchemaFor.mp hns).schemaPair_isSome
  have hgenerics : Namespace.generics ∈ Namespace.withSchemaFor m.objects :=
    Namespace.mem_withSchemaFor.mpr (Or.inl List.mem_cons_self)
  have hsome : ((Namespace.withSchemaFor m.objects).filterMap
      Namespace.schemaPair?).isEmpty = false := by
    rw [List.isEmpty_eq_false_iff_exists_mem]
    obtain ⟨pair, hpair⟩ := Option.isSome_iff_exists.mp (hpairs _ hgenerics)
    exact ⟨pair, List.mem_filterMap.mpr ⟨_, hgenerics, hpair⟩⟩
  refine ⟨_, map_some_filterMap hpairs, ?_⟩
  rw [NamespaceUsage.schemaLocation, members_schemaLocations_collect]
  exact if_neg (Bool.eq_false_iff.mp hsome)

theorem filter_encodedRoot :
    (m.encodedRoot o).attributes.filter bindsPrefix =
      (m.settings o).namespaces.members.filterMap Namespace.declaration? := by
  have hmiddle : ∀ a ∈ (m.settings o).namespaces.members.filterMap
      Namespace.declaration?, bindsPrefix a = true := by
    intro a ha
    obtain ⟨ns, -, hns⟩ := List.mem_filterMap.mp ha
    exact bindsPrefix_declaration hns
  have hroot : ∀ a ∈ m.rootAttributes, a.1 ∈ fixedNames := by
    intro a ha
    rw [rootAttributes] at ha
    split at ha
    · cases ha
    · rw [List.mem_singleton.mp ha]
      simp [fixedNames]
  rw [encodedRoot, attributes_documentElement, Settings.declarations,
    List.filter_append, List.filter_append, List.filter_append,
    List.filter_eq_self.mpr hmiddle, filter_bindsPrefix_of_fixed hroot,
    filter_bindsPrefix_of_fixed, filter_bindsPrefix_of_fixed]
  · simp
  · simp [fixedNames]
  · simp [fixedNames]

theorem prefixes_encodedRoot :
    ((m.encodedRoot o).attributes.filter bindsPrefix).map some =
      (Namespace.usedBy m.objects).map Namespace.declaration? := by
  rw [filter_encodedRoot, members_settings]
  apply map_some_filterMap
  intro ns hns
  exact (Namespace.mem_usedBy.mp hns).declaration_isSome

theorem exists_declaration {ns : Namespace} (h : ns.IsUsedBy m.objects) :
    ∃ a ∈ (m.encodedRoot o).attributes, ns.declaration? = some a := by
  have hmem : ns.declaration? ∈
      ((m.encodedRoot o).attributes.filter bindsPrefix).map some := by
    rw [prefixes_encodedRoot]
    exact List.mem_map_of_mem (Namespace.mem_usedBy.mpr h)
  obtain ⟨a, ha, hdeclaration⟩ := List.mem_map.mp hmem
  exact ⟨a, (List.mem_filter.mp ha).1, hdeclaration.symm⟩

theorem declaresExactly_encodedRoot :
    DeclaresExactly m.objects (m.encodedRoot o).attributes where
  prefixes := m.prefixes_encodedRoot o
  schemas := by
    obtain ⟨pairs, hpairs, hlocation⟩ := schemaLocation_collect m
    refine ⟨pairs, hpairs, ?_⟩
    rw [encodedRoot, attributes_documentElement]
    apply lookup_of_mem_of_nodup (nodup_declarations _ m)
    apply List.mem_append_left
    apply List.mem_append_right
    have hsettings : (m.settings o).schemaLocation =
        some (" ".intercalate pairs) := hlocation
    rw [hsettings]
    exact List.mem_singleton_self _
  bound := fun _ h => m.exists_declaration o h.isUsedBy

end CityModel

/-! ## The order of objects -/

/-- Whether two lists of objects differ only in the order of objects that stand
next to each other, at the top or at any depth. -/
inductive Reordered : List CityObject → List CityObject → Prop where
  | siblings {os os' : List CityObject} (h : os.Perm os') : Reordered os os'
  | inside (before : List CityObject) {o : CityObject}
      {children : List CityObject} (after : List CityObject)
      (h : Reordered o.children children) :
      Reordered (before ++ o :: after)
        (before ++ { o with children := children } :: after)
  | trans {os os' os'' : List CityObject} (h : Reordered os os')
      (h' : Reordered os' os'') : Reordered os os''

namespace CityObject

/-- What decides about the declarations for an object, apart from the objects
below it. -/
def traits (o : CityObject) : FeatureType × Bool × Bool :=
  (o.type, o.children.isEmpty, o.address.isSome)

theorem forest_append (os os' : List CityObject) :
    forest (os ++ os') = forest os ++ forest os' := by
  rw [forest_eq_flatMap, forest_eq_flatMap, forest_eq_flatMap,
    List.flatMap_append]

theorem isEmpty_forest (os : List CityObject) :
    (forest os).isEmpty = os.isEmpty := by
  cases os with
  | nil => rfl
  | cons o rest => rw [forest, subtree_eq]; rfl

end CityObject

namespace Reordered

open CityObject

theorem perm_traits {os os' : List CityObject} (h : Reordered os os') :
    ((forest os).map traits).Perm ((forest os').map traits) := by
  induction h with
  | siblings h =>
      rw [forest_eq_flatMap, forest_eq_flatMap]
      exact (h.flatMap_right subtree).map traits
  | @inside before o children after h ih =>
      have hempty := ih.isEmpty_eq
      rw [List.isEmpty_map, List.isEmpty_map, isEmpty_forest,
        isEmpty_forest] at hempty
      have hself : traits { o with children := children } = o.traits := by
        rw [traits, traits, hempty]
      rw [forest_append, forest_append, forest, forest, subtree_eq,
        subtree_eq]
      simp only [List.map_append, List.map_cons, hself]
      exact ((ih.cons o.traits).append_right _).append_left _
  | trans h h' ih ih' => exact ih.trans ih'

theorem exists_iff {os os' : List CityObject} (h : Reordered os os')
    (P : FeatureType × Bool × Bool → Prop) :
    (∃ p ∈ forest os, P p.traits) ↔ ∃ p ∈ forest os', P p.traits := by
  have hmem : ∀ q, q ∈ (forest os).map traits ↔
      q ∈ (forest os').map traits :=
    fun q => h.perm_traits.mem_iff
  have hmapped : (∃ q ∈ (forest os).map traits, P q) ↔
      ∃ q ∈ (forest os').map traits, P q := by
    simp only [hmem]
  simpa only [List.mem_map, exists_exists_and_eq_and] using hmapped

theorem isModuleOf_iff {os os' : List CityObject} (h : Reordered os os')
    (ns : Namespace) : ns.IsModuleOf os ↔ ns.IsModuleOf os' :=
  h.exists_iff fun traits => traits.1.thematicModule = ns

theorem isUsedBy_iff {os os' : List CityObject} (h : Reordered os os')
    (ns : Namespace) : ns.IsUsedBy os ↔ ns.IsUsedBy os' := by
  have hbelow := h.exists_iff fun traits =>
    traits.2.1 = false ∨ traits.2.2 = true
  have haddress := h.exists_iff fun traits => traits.2.2 = true
  simp only [traits, List.isEmpty_eq_false_iff] at hbelow haddress
  rw [Namespace.IsUsedBy, Namespace.IsUsedBy, h.isModuleOf_iff, hbelow,
    haddress]

theorem hasSchemaFor_iff {os os' : List CityObject} (h : Reordered os os')
    (ns : Namespace) : ns.HasSchemaFor os ↔ ns.HasSchemaFor os' := by
  rw [Namespace.HasSchemaFor, Namespace.HasSchemaFor, h.isModuleOf_iff]

end Reordered

/-- Objects in another order have the same declarations. -/
theorem DeclaresExactly.eq_of_reordered {os os' : List CityObject}
    {attributes attributes' : List (String × String)}
    (h : DeclaresExactly os attributes)
    (h' : DeclaresExactly os' attributes') (horder : Reordered os os') :
    attributes'.filter bindsPrefix = attributes.filter bindsPrefix ∧
      attributes'.lookup "xsi:schemaLocation" =
        attributes.lookup "xsi:schemaLocation" := by
  obtain ⟨pairs, hpairs, hlookup⟩ := h.schemas
  obtain ⟨pairs', hpairs', hlookup'⟩ := h'.schemas
  have hprefixes := h.prefixes
  simp only [Namespace.usedBy, horder.isUsedBy_iff] at hprefixes
  simp only [Namespace.withSchemaFor, horder.hasSchemaFor_iff] at hpairs
  have hsame : pairs' = pairs :=
    List.map_injective_iff.mpr (fun _ _ => Option.some.inj)
      (hpairs'.trans hpairs.symm)
  constructor
  · exact List.map_injective_iff.mpr (fun _ _ => Option.some.inj)
      (h'.prefixes.trans hprefixes.symm)
  · rw [hlookup', hlookup, hsame]

/-- The document element of an encoded model declares what its objects use and
nothing else.  It declares the same for the same objects in another order,
whatever the options and the rest of the model. -/
theorem Writer.encode_declaresExactly (w : Writer) (m : CityModel)
    (h : w.options.validate = .ok ()) :
    ∃ root, ((encode m).run w).state.builder.stack = [root] ∧
      DeclaresExactly m.objects root.attributes ∧
      ∀ (w' : Writer) (m' : CityModel), w'.options.validate = .ok () →
        Reordered m.objects m'.objects →
        ∃ root', ((encode m').run w').state.builder.stack = [root'] ∧
          root'.attributes.filter bindsPrefix =
            root.attributes.filter bindsPrefix ∧
          root'.attributes.lookup "xsi:schemaLocation" =
            root.attributes.lookup "xsi:schemaLocation" := by
  have hroot := m.declaresExactly_encodedRoot w.options
  refine ⟨m.encodedRoot w.options, ?_, hroot, ?_⟩
  · rw [run_encode_ok h]
    rfl
  · intro w' m' h' horder
    have hroot' := m'.declaresExactly_encodedRoot w'.options
    refine ⟨m'.encodedRoot w'.options, ?_,
      hroot.eq_of_reordered hroot' horder⟩
    rw [run_encode_ok h']
    rfl

/-- The prefixes for a wall below a park with an address. -/
theorem Writer.encode_declaresExactly_park :
    ∃ root, ((encode .park).run (.new .standard)).state.builder.stack =
        [root] ∧
      root.attributes.filter bindsPrefix =
        [.gml, .building, .core, .landUse, .generics, .appearance, .xal, .xsi,
          .xlink].filterMap Namespace.declaration? := by
  obtain ⟨root, hstack, hexact, -⟩ :=
    encode_declaresExactly (.new .standard) .park Options.validate_standard
  refine ⟨root, hstack, ?_⟩
  apply List.map_injective_iff.mpr fun _ _ => Option.some.inj
  rw [hexact.prefixes]
  decide +kernel

end CityMarkup
