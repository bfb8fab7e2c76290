import CityMarkup.Proofs.Namespaces.Declarations
import CityMarkup.Proofs.Namespaces.Soundness

/-!
# The walk before writing covers the writing

Objects and models ask for nothing that the walk over the model has not found.
In the finished document every namespace that was asked for is bound to its
identifier by the document element, and only three elements stand without a
prefix.
-/

namespace CityMarkup

open Fragment Request

variable {declared : Namespace → Bool}

/-! ## City objects -/

/-- Whether the namespaces that every document declares are declared, and
those that some of the objects need. -/
structure DeclaresFor (declared : Namespace → Bool)
    (objects : List CityObject) : Prop where
  always : ∀ ns ∈ NamespaceUsage.always, declared ns = true
  needed : ∀ p ∈ objects, ∀ ns, p.needs ns = true → declared ns = true

theorem DeclaresFor.mono {objects fewer : List CityObject}
    (h : DeclaresFor declared objects) (hsub : ∀ p ∈ fewer, p ∈ objects) :
    DeclaresFor declared fewer where
  always := h.always
  needed := fun p hp => h.needed p (hsub p hp)

theorem DeclaresFor.below {o : CityObject}
    (h : DeclaresFor declared o.subtree) :
    DeclaresFor declared (CityObject.forest o.children) := by
  apply h.mono
  intro p hp
  rw [CityObject.subtree_eq]
  exact List.mem_cons_of_mem o hp

theorem DeclaresFor.of_forest_cons {o : CityObject} {rest : List CityObject}
    (h : DeclaresFor declared (CityObject.forest (o :: rest))) :
    DeclaresFor declared o.subtree ∧
      DeclaresFor declared (CityObject.forest rest) := by
  rw [CityObject.forest] at h
  constructor
  · exact h.mono fun p hp => List.mem_append_left _ hp
  · exact h.mono fun p hp => List.mem_append_right _ hp

/-- The namespaces that every document declares have prefixes. -/
theorem DeclaresFor.isBound {objects : List CityObject}
    (h : DeclaresFor declared objects) {ns : Namespace}
    (hns : ns ∈ NamespaceUsage.always) : ns.IsBound declared where
  ne := by
    have key : ∀ ns ∈ NamespaceUsage.always, ns ≠ .cityGml := by decide
    exact key ns hns
  declared := h.always ns hns

namespace FeatureType

theorem plain_elementName (type : FeatureType) :
    type.elementName.toList.all Char.isAlphanum = true := by
  have key : ∀ type ∈ all,
      type.elementName.toList.all Char.isAlphanum = true := by
    decide +kernel
  exact key type (mem_all type)

theorem thematicModule_ne (type : FeatureType) :
    type.thematicModule ≠ .cityGml := by
  have key : ∀ type ∈ all, type.thematicModule ≠ .cityGml := by
    decide +kernel
  exact key type (mem_all type)

/-- The names of the elements that hold geometries. -/
def containerNames : List String :=
  ["lod0FootPrint", "lod1Solid", "lod2Solid", "lod3Solid", "lod4Solid",
    "lod1MultiSurface", "lod2MultiSurface", "lod3MultiSurface",
    "lod4MultiSurface"]

theorem mem_containerNames {type : FeatureType} {lod : Nat}
    {kind : GeometryKind} {name : String}
    (h : type.container? lod kind = some name) : name ∈ containerNames := by
  unfold container? at h
  split at h
  case h_10 => cases h
  all_goals split at h <;> cases h <;> decide

end FeatureType

theorem Geometry.mem_containerNames {g : Geometry} {o : Options}
    {type : FeatureType} {name : String}
    (h : g.placement o type = .held name) :
    name ∈ FeatureType.containerNames := by
  rw [placement] at h
  split at h
  · cases h
  · split at h
    · rename_i found hfound
      cases h
      exact FeatureType.mem_containerNames hfound
    · cases h

theorem Geometry.allSound_placedFragments
    (hgml : Namespace.IsBound declared .gml) {type : FeatureType}
    (htype : type.thematicModule.IsBound declared) (o : Options)
    (g : Geometry) :
    AllSound declared (g.placedFragments o type) := by
  have hplain : ∀ name ∈ FeatureType.containerNames,
      name.toList.all Char.isAlphanum = true := by
    decide
  rw [placedFragments]
  split
  · rename_i name hname
    have hcontainer := hplain name (mem_containerNames hname)
    refine allSound_singleton (isSound_wrap hcontainer htype ?_)
    exact allSound_singleton (g.isSound_fragment hgml)
  · exact allSound_nil
  · exact allSound_nil

namespace CityObject

theorem needs_thematicModule (o : CityObject) :
    o.needs o.type.thematicModule = true := by
  simp [needs]

theorem needs_building_of_child {o : CityObject} (h : o.children ≠ []) :
    o.needs .building = true := by
  simp [needs, h]

theorem needs_of_address {o : CityObject} {a : Address}
    (h : o.address = some a) :
    o.needs .building = true ∧ o.needs .xal = true := by
  simp [needs, h]

theorem allSound_addressFragments {object : CityObject}
    (h : DeclaresFor declared [object]) (o : Options) :
    AllSound declared (addressFragments o object.address) := by
  apply allSound_ite
  apply allSound_map
  intro a ha
  have haddress : object.address = some a := by simpa using ha
  obtain ⟨hbuilding, hxal⟩ := needs_of_address haddress
  have hmem : object ∈ [object] := List.mem_singleton_self object
  have hinner : Namespace.IsBound declared .xal :=
    ⟨by decide, h.needed object hmem .xal hxal⟩
  have houter : Namespace.IsBound declared .building :=
    ⟨by decide, h.needed object hmem .building hbuilding⟩
  refine isSound_wrap rfl houter (allSound_singleton ?_)
  exact a.isSound_fragment hinner

theorem allSound_referenceFragments (hcore : Namespace.IsBound declared .core)
    (hgml : Namespace.IsBound declared .gml) (o : Options)
    (reference : Option ExternalReference) (coverage : Option GridCoverage) :
    AllSound declared (referenceFragments o reference coverage) := by
  apply allSound_ite
  apply AllSound.append
  · exact allSound_map fun r _ => r.isSound_fragment hcore
  · exact allSound_map fun c _ => c.isSound_fragment hcore hgml

mutual

/-- An object asks for what is declared if everything is declared that it and
the objects below it need, whatever the options leave out. -/
theorem isSound_fragment (o : Options) :
    ∀ (isRoot : Bool) (object : CityObject),
      DeclaresFor declared object.subtree →
      (object.fragment declared o isRoot).IsSound declared
  | isRoot, ⟨id, type, attributes, geometries, children, address, reference,
      coverage⟩, h => by
    let object : CityObject := ⟨id, type, attributes, geometries, children,
      address, reference, coverage⟩
    have hself : DeclaresFor declared [object] := by
      apply h.mono
      intro p hp
      rw [List.mem_singleton.mp hp]
      exact mem_subtree_self object
    have hmem : object ∈ [object] := List.mem_singleton_self object
    have htype : type.thematicModule.IsBound declared :=
      ⟨type.thematicModule_ne,
        hself.needed object hmem _ object.needs_thematicModule⟩
    have hgml := h.isBound (by decide : .gml ∈ NamespaceUsage.always)
    have hcore := h.isBound (by decide : .core ∈ NamespaceUsage.always)
    have hgenerics :=
      h.isBound (by decide : .generics ∈ NamespaceUsage.always)
    have happearance :=
      h.isBound (by decide : .appearance ∈ NamespaceUsage.always)
    have hbuilding : children ≠ [] → declared .building = true := by
      intro hchildren
      exact hself.needed object hmem .building
        (needs_building_of_child hchildren)
    rw [fragment]
    refine isSound_identified type.plain_elementName htype id ?_
    simp only [allSound_append]
    refine ⟨⟨⟨⟨⟨?_, ?_⟩, ?_⟩, ?_⟩, ?_⟩, ?_⟩
    · exact attributes.allSound_fragments hgenerics o.genericAttributes
    · exact ThemedAppearances.allSound_fragments happearance _
    · exact allSound_flatMap fun g _ =>
        g.allSound_placedFragments hgml htype o
    · exact allSound_childFragments o children hbuilding h.below
    · exact allSound_addressFragments hself o
    · exact allSound_referenceFragments hcore hgml o reference coverage

theorem allSound_childFragments (o : Options) :
    ∀ children : List CityObject,
      (children ≠ [] → declared .building = true) →
      DeclaresFor declared (forest children) →
      AllSound declared (childFragments declared o children)
  | [], _, _ => by
    rw [childFragments]
    exact allSound_nil
  | child :: rest, hbuilding, h => by
    obtain ⟨hfirst, hrest⟩ := h.of_forest_cons
    have hdeclared := hbuilding (List.cons_ne_nil child rest)
    rw [childFragments]
    apply AllSound.cons
    · refine isSound_wrap rfl ⟨by decide, hdeclared⟩ (allSound_singleton ?_)
      exact isSound_fragment o false child hfirst
    · exact allSound_childFragments o rest (fun _ => hdeclared) hrest

end

theorem subtree_subset_forest {o : CityObject} {os : List CityObject}
    (h : o ∈ os) : ∀ p ∈ o.subtree, p ∈ forest os := by
  induction os with
  | nil => cases h
  | cons first rest ih =>
      intro p hp
      rw [forest]
      rcases List.mem_cons.mp h with rfl | hrest
      · exact List.mem_append_left _ hp
      · exact List.mem_append_right _ (ih hrest p hp)

end CityObject

/-! ## Models -/

namespace CityModel

theorem declaresFor_settings (o : Options) (m : CityModel) :
    DeclaresFor (m.settings o).isDeclared (CityObject.forest m.objects) where
  always := by
    intro ns hns
    have hne : ∀ ns ∈ NamespaceUsage.always, ns ≠ .cityGml := by decide
    have hcontains : NamespaceUsage.always.contains ns = true :=
      List.contains_iff_mem.mpr hns
    rw [isDeclared_settings o m (hne ns hns), hcontains, Bool.true_or]
  needed := by
    intro p hp ns hneeds
    by_cases hns : ns = .cityGml
    · rw [hns]
      rfl
    · have hany : (CityObject.forest m.objects).any (fun p => p.needs ns) =
          true := List.any_eq_true.mpr ⟨p, hp, hneeds⟩
      rw [isDeclared_settings o m hns, hany, Bool.or_true]

theorem allSound_fragments (o : Options) (m : CityModel) :
    AllSound (m.settings o).isDeclared
      (m.fragments (m.settings o).isDeclared o) := by
  have hdeclares := declaresFor_settings o m
  have hgml := hdeclares.isBound (by decide : .gml ∈ NamespaceUsage.always)
  have hcore := hdeclares.isBound (by decide : .core ∈ NamespaceUsage.always)
  have hgenerics :=
    hdeclares.isBound (by decide : .generics ∈ NamespaceUsage.always)
  rw [fragments, allSound_append, allSound_append]
  refine ⟨⟨?_, ?_⟩, ?_⟩
  · exact m.attributes.allSound_fragments hgenerics o.genericAttributes
  · exact allSound_ite (allSound_singleton (m.envelope.isSound_fragment hgml))
  · apply allSound_map
    intro object hobject
    have hobjects := hdeclares.mono
      (CityObject.subtree_subset_forest hobject)
    refine isSound_wrap rfl hcore (allSound_singleton ?_)
    exact object.isSound_fragment o true hobjects

end CityModel

/-! ## The finished document -/

theorem Settings.qualify_of_isDeclared {s : Settings} {ns : Namespace}
    {short : String} (hshort : ns.abbreviation = some short)
    (hdeclared : s.isDeclared ns = true) (name : String) :
    s.qualify name ns = short ++ ":" ++ name := by
  rw [qualify, hshort]
  simp only [hdeclared]
  rfl

theorem Settings.qualify_cityGml (s : Settings) (name : String) :
    s.qualify name .cityGml = name := rfl

/-- What is asked for in the namespaces of a document and how the finished
document element accounts for it.  The name `CityModel` and the names of the
default namespace are the only ones without a prefix, and a prefix is either
that of a declared namespace or part of a declaration. -/
structure BindsRequests (s : Settings) (requests : List Request)
    (root : OpenElement) : Prop where
  name : root.name = "CityModel"
  default : root.attributes.lookup "xmlns" = some Namespace.cityGml.uri
  elements : Node.allElements root.children = requests.map (written s)
  bound : ∀ r ∈ requests, r.ns ≠ .cityGml →
    ∃ short, r.ns.abbreviation = some short ∧
      s.qualify r.name r.ns = short ++ ":" ++ r.name ∧
      root.attributes.lookup ("xmlns:" ++ short) = some r.ns.uri
  unprefixed : ∀ element ∈ root.toNode.elements, ':' ∉ element.1.toList →
    element.1 ∈ ["CityModel", "Address", "xalAddress"]
  attributes : ∀ element ∈ Node.allElements root.children,
    ∀ a ∈ element.2, ':' ∈ a.1.toList → a.1 = "gml:id"
  rootAttributes : ∀ a ∈ root.attributes, ':' ∈ a.1.toList →
    a.1 = "xsi:schemaLocation" ∨ ∃ ns : Namespace, ns.declaration? = some a
  gml : root.attributes.lookup "xmlns:gml" = some Namespace.gml.uri
  xsi : root.attributes.lookup "xmlns:xsi" = some Namespace.xsi.uri

namespace CityModel

variable (o : Options) (m : CityModel)

theorem lookup_of_isDeclared {ns : Namespace} {short : String}
    (hne : ns ≠ .cityGml) (hshort : ns.abbreviation = some short)
    (hdeclared : (m.settings o).isDeclared ns = true) :
    (m.encodedRoot o).attributes.lookup ("xmlns:" ++ short) =
      some ns.uri := by
  have hbeq : (ns == .cityGml) = false := by simpa using hne
  rw [Settings.isDeclared, hbeq, Bool.false_or] at hdeclared
  exact lookup_declaration (m.settings o) o m hdeclared hshort

theorem elements_encodedRoot :
    Node.allElements (m.encodedRoot o).children =
      (allRequests (m.fragments (m.settings o).isDeclared o)).map
        (written (m.settings o)) :=
  allElements_toNodes (m.settings o) _

/-- Every request for a namespace other than the default one is written with
the prefix that the document element binds to that namespace. -/
theorem bound_encodedRoot {r : Request}
    (hr : r ∈ allRequests (m.fragments (m.settings o).isDeclared o))
    (hne : r.ns ≠ .cityGml) :
    ∃ short, r.ns.abbreviation = some short ∧
      (m.settings o).qualify r.name r.ns = short ++ ":" ++ r.name ∧
      (m.encodedRoot o).attributes.lookup ("xmlns:" ++ short) =
        some r.ns.uri := by
  have hsound := (allSound_fragments o m).of_mem_requests hr
  have hdeclared := hsound.covered
  rw [if_neg hne] at hdeclared
  obtain ⟨short, hshort⟩ := Option.isSome_iff_exists.mp
    (Namespace.abbreviation_isSome hne)
  exact ⟨short, hshort, Settings.qualify_of_isDeclared hshort hdeclared r.name,
    lookup_of_isDeclared o m hne hshort hdeclared⟩

theorem mem_keys_written {s : Settings} {r : Request} {a : String × String}
    (ha : a ∈ (written s r).2) : a.1 ∈ r.attributes.map Prod.fst := by
  rcases mem_keys_foldl_setAttribute (List.mem_map_of_mem ha) with h | h
  · cases h
  · exact h

theorem bindsRequests_encodedRoot :
    BindsRequests (m.settings o)
      (allRequests (m.fragments (m.settings o).isDeclared o))
      (m.encodedRoot o) where
  name := Settings.qualify_cityGml (m.settings o) "CityModel"
  default := lookup_default (m.settings o) o m rfl
  elements := elements_encodedRoot o m
  bound := fun r hr hne => bound_encodedRoot o m hr hne
  unprefixed := by
    intro element helement hcolon
    rw [OpenElement.toNode, Node.elements, List.mem_cons,
      elements_encodedRoot] at helement
    rcases helement with rfl | helement
    · exact List.mem_cons_self
    · obtain ⟨r, hr, rfl⟩ := List.mem_map.mp helement
      have hcovered := ((allSound_fragments o m).of_mem_requests hr).covered
      by_cases hne : r.ns = .cityGml
      · rw [if_pos hne] at hcovered
        rw [written, hne]
        exact List.mem_cons_of_mem _ hcovered
      · obtain ⟨short, -, hname, -⟩ := bound_encodedRoot o m hr hne
        exfalso
        apply hcolon
        rw [written, hname]
        simp
  attributes := by
    intro element helement a ha hcolon
    rw [elements_encodedRoot] at helement
    obtain ⟨r, hr, rfl⟩ := List.mem_map.mp helement
    have hsound := (allSound_fragments o m).of_mem_requests hr
    obtain ⟨b, hb, hab⟩ := List.mem_map.mp (mem_keys_written ha)
    have hknown := hsound.known b hb
    have key : ∀ name ∈ attributeNames, ':' ∈ name.toList →
        name = "gml:id" := by
      decide
    rw [hab] at hknown
    exact key a.1 hknown hcolon
  rootAttributes := by
    intro a ha hcolon
    rcases mem_attributes_documentElement ha with hname | hns
    · have key : ∀ name ∈ fixedNames, ':' ∈ name.toList →
          name = "xsi:schemaLocation" := by
        decide
      exact Or.inl (key a.1 hname hcolon)
    · exact Or.inr hns
  gml := by
    have hdeclared := (declaresFor_settings o m).always .gml (by decide)
    have hname : "xmlns:" ++ "gml" = "xmlns:gml" := by decide
    rw [← hname]
    exact lookup_of_isDeclared o m (by decide) rfl hdeclared
  xsi := by
    have hdeclared := (declaresFor_settings o m).always .xsi (by decide)
    have hname : "xmlns:" ++ "xsi" = "xmlns:xsi" := by decide
    rw [← hname]
    exact lookup_of_isDeclared o m (by decide) rfl hdeclared

end CityModel

/-- Whatever a successful encoding asks for is bound in the document that it
leaves: the walk before writing has found every namespace. -/
theorem Writer.encode_bindsRequests (w : Writer) (m : CityModel)
    (h : ((encode m).run w).result = .ok ()) :
    ∃ root, ((encode m).run w).state.builder.stack = [root] ∧
      BindsRequests (m.settings w.options)
        (allRequests
          (m.fragments (m.settings w.options).isDeclared w.options)) root := by
  refine ⟨m.encodedRoot w.options, ?_, m.bindsRequests_encodedRoot w.options⟩
  rw [state_encode h]
  rfl

/-- A park with an address, above a wall. -/
def CityModel.park : CityModel :=
  ⟨"", none, .unset, .empty,
    [⟨"park", .landUse, .empty, [],
      [⟨"wall", .wallSurface, .empty, [], [], none, none, none⟩],
      some ⟨none, none, none, none, none⟩, none, none⟩]⟩

theorem Writer.encode_bindsRequests_park :
    ∃ root, ((encode .park).run (.new .standard)).state.builder.stack =
        [root] ∧
      root.attributes.lookup "xmlns:xAL" = some Namespace.xal.uri := by
  have hvalid : ((encode .park).run (.new .standard)).result = .ok () := by
    rw [result_encode]
    exact Options.validate_standard
  obtain ⟨root, hstack, hbinds⟩ :=
    encode_bindsRequests (.new .standard) .park hvalid
  have hrequest : ⟨"AddressDetails", .xal, []⟩ ∈ allRequests
      (CityModel.park.fragments
        (CityModel.park.settings .standard).isDeclared .standard) := by
    decide +kernel
  obtain ⟨short, hshort, -, hlookup⟩ := hbinds.bound _ hrequest (by decide)
  refine ⟨root, hstack, ?_⟩
  cases hshort
  exact hlookup

end CityMarkup
