import CityMarkup.Proofs.Appearance.Reports
import CityMarkup.Proofs.Encoding.Attributes
import CityMarkup.Proofs.Encoding.Omission

/-!
# Containers of geometries

Whether a geometry is written is decided by three questions: whether it is
empty, whether objects of the type hold geometries, and whether there is a
container for the level of detail.  If all of them are answered in its favour,
it stands alone in one container, and otherwise there is one report of it.  The
container and the element in it are named by the same inference, so a container
for solids never holds anything else.  What is bound to a geometry is shown all
the same, with the appearances of the root object.
-/

namespace CityMarkup

/-! ## Places -/

namespace FeatureType

/-- The types of objects that hold geometries. -/
def holders : List FeatureType :=
  [.building, .buildingPart, .wallSurface, .roofSurface, .groundSurface,
    .closureSurface, .floorSurface, .interiorWallSurface, .ceilingSurface]

/-- The name of the container at a level of detail.  Only buildings and their
parts keep solids apart, and on the ground there is but one container. -/
def containerName (type : FeatureType) (lod : Nat) (solid : Bool) : String :=
  if lod = 0 then
    "lod0FootPrint"
  else if solid && (type == .building || type == .buildingPart) then
    "lod" ++ toString lod ++ "Solid"
  else
    "lod" ++ toString lod ++ "MultiSurface"

theorem containerName_mem (type : FeatureType) {lod : Nat} (h : lod ≤ 4)
    (solid : Bool) :
    (type.containerName lod solid).toList.all Char.isAlphanum = true ∧
      containerNames.contains (type.containerName lod solid) = true := by
  have key : ∀ lod ≤ 4, ∀ apart : Bool, ∀ name,
      name = (if lod = 0 then "lod0FootPrint"
        else if apart then "lod" ++ toString lod ++ "Solid"
        else "lod" ++ toString lod ++ "MultiSurface") →
      name.toList.all Char.isAlphanum = true ∧
        containerNames.contains name = true := by
    simp only [forall_eq]
    decide +kernel
  exact key lod h (solid && (type == .building || type == .buildingPart)) _ rfl

theorem container?_of_le (type : FeatureType) {lod : Nat} (h : lod ≤ 4)
    (kind : GeometryKind) :
    type.container? lod kind =
      if holders.contains type then
        some (type.containerName lod (kind == .solid))
      else
        none := by
  have key : ∀ type ∈ all, ∀ lod ≤ 4, type.container? lod kind =
      if holders.contains type then
        some (type.containerName lod (kind == .solid))
      else
        none := by
    cases kind <;> decide +kernel
  exact key type (mem_all type) lod h

theorem container?_of_lt (type : FeatureType) {lod : Nat} (h : 4 < lod)
    (kind : GeometryKind) : type.container? lod kind = none := by
  obtain ⟨n, rfl⟩ : ∃ n, lod = n + 5 := ⟨lod - 5, by omega⟩
  cases type <;> rfl

end FeatureType

namespace Geometry

/-- Whether there is a place for a geometry in objects of the given type. -/
def hasPlace (o : Options) (type : FeatureType) (g : Geometry) : Bool :=
  (!g.isEmpty || o.emptyGeometries) && FeatureType.holders.contains type &&
    decide (g.lod ≤ 4)

theorem isWritten_eq_hasPlace (o : Options) (type : FeatureType)
    (g : Geometry) : g.isWritten o type = g.hasPlace o type := by
  rw [isWritten, hasPlace, Bool.not_and, Bool.not_not, Bool.and_assoc]
  congr 1
  by_cases hlod : g.lod ≤ 4
  · rw [type.container?_of_le hlod, decide_eq_true hlod, Bool.and_true]
    cases FeatureType.holders.contains type <;> rfl
  · rw [type.container?_of_lt (Nat.lt_of_not_le hlod),
      decide_eq_false hlod, Bool.and_false, Option.isSome_none]

/-- The container of a geometry, with the element for the geometry. -/
def containerFragment (type : FeatureType) (g : Geometry) : Fragment :=
  .wrap (type.containerName g.lod (g.kind == .solid)) .building [g.fragment]

theorem placedFragments_eq_ite (o : Options) (type : FeatureType)
    (g : Geometry) :
    g.placedFragments o type =
      if g.hasPlace o type then [g.containerFragment type] else [] := by
  rw [← isWritten_eq_hasPlace]
  split
  · rename_i hwritten
    obtain ⟨name, hname, hplaced⟩ := placedFragments_of_isWritten hwritten
    have hlod : g.lod ≤ 4 := by
      apply Nat.le_of_not_lt
      intro hlt
      rw [type.container?_of_lt hlt] at hname
      cases hname
    have hmodule := FeatureType.thematicModule_of_container? hname
    rw [type.container?_of_le hlod] at hname
    split at hname
    · cases hname
      rw [hplaced, hmodule, containerFragment]
    · cases hname
  · rename_i hwritten
    exact placedFragments_of_not_isWritten hwritten

theorem flatMap_placedFragments (o : Options) (type : FeatureType)
    (geometries : List Geometry) :
    geometries.flatMap (placedFragments o type) =
      (geometries.filter (hasPlace o type)).map (containerFragment type) := by
  induction geometries with
  | nil => rfl
  | cons g rest ih =>
      rw [List.flatMap_cons, ih, placedFragments_eq_ite, List.filter_cons]
      split
      · rfl
      · rfl

/-! ## Names -/

/-- How a geometry is named.  Nested geometries count before polygons, these
before lines, and the declared role counts only without any content. -/
inductive StandsAs : Geometry → String → Prop where
  | children {g : Geometry} (hchildren : g.children ≠ []) : StandsAs g "Solid"
  | polygon {g : Geometry} (hchildren : g.children = [])
      (hpolygons : g.polygons.length = 1) : StandsAs g "MultiSurface"
  | polygons {g : Geometry} (hchildren : g.children = [])
      (hpolygons : 1 < g.polygons.length) : StandsAs g "CompositeSurface"
  | line {g : Geometry} (hchildren : g.children = [])
      (hpolygons : g.polygons = []) (hlines : g.lines.length = 1) :
      StandsAs g "LineString"
  | lines {g : Geometry} (hchildren : g.children = [])
      (hpolygons : g.polygons = []) (hlines : 1 < g.lines.length) :
      StandsAs g "CompositeCurve"
  | tin {g : Geometry} (hempty : g.isEmpty = true) (hrole : g.role = .tin) :
      StandsAs g "TINRelief"
  | surface {g : Geometry} (hempty : g.isEmpty = true)
      (hrole : g.role.isSurface = true) : StandsAs g "MultiSurface"
  | unknown {g : Geometry} (hempty : g.isEmpty = true)
      (hrole : g.role = .unknown) : StandsAs g "Geometry"

theorem standsAs_ofRole {g : Geometry} (h : g.isEmpty = true) :
    g.StandsAs (GeometryKind.ofRole g.role).elementName := by
  rw [GeometryKind.ofRole]
  by_cases htin : g.role = .tin
  · rw [if_pos htin]
    exact .tin h htin
  · by_cases hsurface : g.role.isSurface = true
    · rw [if_neg htin, if_pos hsurface]
      exact .surface h hsurface
    · rw [if_neg htin, if_neg hsurface]
      apply StandsAs.unknown h
      revert htin hsurface
      cases g.role <;> decide

/-- The element of a geometry is named by what the geometry contains. -/
theorem standsAs_kind : ∀ g : Geometry, g.StandsAs g.kind.elementName
  | ⟨_, _, _, _, _, _ :: _, _⟩ => .children (List.cons_ne_nil _ _)
  | ⟨_, _, _, [_], _, [], _⟩ => .polygon rfl rfl
  | ⟨_, _, _, _ :: _ :: _, _, [], _⟩ =>
    .polygons rfl (Nat.succ_lt_succ (Nat.succ_pos _))
  | ⟨_, _, _, [], [_], [], _⟩ => .line rfl rfl rfl
  | ⟨_, _, _, [], _ :: _ :: _, [], _⟩ =>
    .lines rfl rfl (Nat.succ_lt_succ (Nat.succ_pos _))
  | ⟨_, _, _, [], [], [], _⟩ => standsAs_ofRole rfl

/-- Whether a node is the container of a geometry, with the element of the
geometry and nothing else in it. -/
def IsHeld (s : Settings) (type : FeatureType) (g : Geometry) (node : Node) :
    Prop :=
  ∃ name content,
    g.StandsAs name ∧
    g.fragment.toNode s =
      .element (s.qualify name .gml) (Fragment.identity g.id) content ∧
    node =
      .element (s.qualify (type.containerName g.lod (name == "Solid"))
        .building) [] [g.fragment.toNode s]

theorem isHeld_containerFragment (s : Settings) (type : FeatureType)
    (g : Geometry) :
    g.IsHeld s type ((g.containerFragment type).toNode s) := by
  have hsolid : (g.kind.elementName == "Solid") = (g.kind == .solid) := by
    cases g.kind <;> decide
  have hnode := Fragment.toNode_identified s g.kind.elementName .gml g.id
    (enclose g.kind
      (g.polygons.map (fun p => .wrap "surfaceMember" .gml [p.fragment]) ++
        g.lines.map Line.fragment ++ g.children.map fragment))
  rw [← fragment_eq] at hnode
  refine ⟨g.kind.elementName, _, g.standsAs_kind, hnode, ?_⟩
  rw [hsolid]
  rfl

end Geometry

/-! ## Containers among the content of an object -/

/-- Whether a node is a container of geometries, by its local name. -/
def Node.isContainer : Node → Bool
  | .element name _ _ =>
    FeatureType.containerNames.contains (Outline.localName name)
  | .text _ => false

namespace Fragment

/-- Whether some fragments are elements with local names from a list. -/
def Among (names : List String) (fragments : List Fragment) : Prop :=
  ∀ fragment ∈ fragments, ∃ name ∈ names, ∃ ns attributes content,
    fragment = .element name ns attributes content

variable {names : List String}

theorem among_nil : Among names [] :=
  fun _ h => absurd h List.not_mem_nil

theorem Among.append {first second : List Fragment}
    (hfirst : Among names first) (hsecond : Among names second) :
    Among names (first ++ second) :=
  List.forall_mem_append.mpr ⟨hfirst, hsecond⟩

theorem among_map {α : Type} {f : α → Fragment} {name : String}
    (hname : name ∈ names) {ns : Namespace}
    (h : ∀ a, ∃ attributes content,
      f a = .element name ns attributes content) (l : List α) :
    Among names (l.map f) := by
  intro fragment hfragment
  obtain ⟨a, -, rfl⟩ := List.mem_map.mp hfragment
  obtain ⟨attributes, content, ha⟩ := h a
  exact ⟨name, hname, ns, attributes, content, ha⟩

theorem among_ite {condition : Prop} [Decidable condition]
    {fragments : List Fragment} (h : Among names fragments) :
    Among names (if condition then fragments else []) := by
  split
  · exact h
  · exact among_nil

theorem among_ite_not {condition : Prop} [Decidable condition]
    {fragments : List Fragment} (h : Among names fragments) :
    Among names (if condition then [] else fragments) := by
  split
  · exact among_nil
  · exact h

end Fragment

namespace CityObject

open Fragment

/-- The local names of what stands beside the containers in an object. -/
def besideContainers : List String :=
  KnownAttribute.all.map KnownAttribute.localName ++
    AttributeKind.wrappers.map (·.1) ++
    ["appearance", "boundedBy", "address", "ExternalReference",
      "RectifiedGridCoverage"]

theorem plain_of_mem_besideContainers {name : String}
    (h : name ∈ besideContainers) :
    name.toList.all Char.isAlphanum = true ∧
      FeatureType.containerNames.contains name = false := by
  have key : ∀ name ∈ besideContainers,
      name.toList.all Char.isAlphanum = true ∧
        FeatureType.containerNames.contains name = false := by
    decide +kernel
  exact key name h

theorem among_attributes (declared : Namespace → Bool) (generic : Bool)
    (attributes : Attributes) :
    Among besideContainers (attributes.fragments declared generic) := by
  intro fragment hfragment
  obtain ⟨⟨name, value⟩, -, hentry⟩ := List.mem_flatMap.mp hfragment
  rw [Attributes.entryFragments] at hentry
  split at hentry
  · rename_i known hknown
    obtain ⟨hfound, -⟩ := Option.filter_eq_some_iff.mp hknown
    have hmem : known.localName ∈ besideContainers := by
      apply List.mem_append_left
      apply List.mem_append_left
      exact List.mem_map_of_mem (List.mem_of_find?_eq_some hfound)
    exact ⟨_, hmem, _, _, _, List.mem_singleton.mp hentry⟩
  · have hmem : value.genericName ∈ besideContainers := by
      cases value <;> rw [AttributeValue.genericName] <;> decide +kernel
    split at hentry
    · exact ⟨_, hmem, _, _, _, List.mem_singleton.mp hentry⟩
    · cases hentry

theorem among_appearances (t : ThemedAppearances) :
    Among besideContainers t.fragments := by
  rw [ThemedAppearances.fragments]
  apply among_ite_not
  intro fragment hfragment
  exact ⟨"appearance", by decide +kernel, _, _, _,
    List.mem_singleton.mp hfragment⟩

theorem among_childFragments (declared : Namespace → Bool) (o : Options)
    (children : List CityObject) :
    Among besideContainers (childFragments declared o children) := by
  induction children with
  | nil =>
      rw [childFragments]
      exact among_nil
  | cons child rest ih =>
      rw [childFragments, ← List.singleton_append]
      refine Among.append ?_ ih
      intro fragment hfragment
      exact ⟨"boundedBy", by decide +kernel, _, _, _,
        List.mem_singleton.mp hfragment⟩

theorem among_addressFragments (o : Options) (address : Option Address) :
    Among besideContainers (addressFragments o address) := by
  apply among_ite
  exact among_map (by decide +kernel : "address" ∈ besideContainers)
    (fun a : Address => ⟨[], [a.fragment], rfl⟩) _

theorem among_referenceFragments (o : Options)
    (reference : Option ExternalReference) (coverage : Option GridCoverage) :
    Among besideContainers (referenceFragments o reference coverage) := by
  apply among_ite
  apply Among.append
  · exact among_map
      (by decide +kernel : "ExternalReference" ∈ besideContainers)
      (fun r => ⟨_, _, rfl⟩) _
  · exact among_map
      (by decide +kernel : "RectifiedGridCoverage" ∈ besideContainers)
      (fun c => ⟨_, _, rfl⟩) _

end CityObject

namespace Node

variable (s : Settings)

theorem isContainer_toNode {name : String}
    (h : name.toList.all Char.isAlphanum = true) (ns : Namespace)
    (attributes : List (String × String)) (content : List Fragment) :
    (Fragment.toNode s (.element name ns attributes content)).isContainer =
      FeatureType.containerNames.contains name := by
  rw [Fragment.toNode, isContainer, s.localName_qualify h]

theorem filter_isContainer_of_among {fragments : List Fragment}
    (h : Fragment.Among CityObject.besideContainers fragments) :
    (Fragment.toNodes s fragments).filter isContainer = [] := by
  rw [List.filter_eq_nil_iff, Fragment.toNodes_eq_map, List.forall_mem_map]
  intro fragment hfragment
  obtain ⟨name, hname, ns, attributes, content, rfl⟩ := h fragment hfragment
  obtain ⟨hplain, hother⟩ := CityObject.plain_of_mem_besideContainers hname
  rw [isContainer_toNode s hplain, hother]
  exact Bool.false_ne_true

theorem isContainer_containerFragment {type : FeatureType} {g : Geometry}
    (h : g.lod ≤ 4) :
    ((g.containerFragment type).toNode s).isContainer = true := by
  obtain ⟨hplain, hname⟩ :=
    type.containerName_mem h (g.kind == .solid)
  rw [Geometry.containerFragment, Fragment.wrap,
    isContainer_toNode s hplain, hname]

end Node

/-! ## Reports -/

/-- Whether a notice is a debug message. -/
def Notice.isDebug (n : Notice) : Bool :=
  n.level == .debug

namespace Geometry

/-- The report of a geometry that is not written. -/
def report (o : Options) (type : FeatureType) (objectId : String)
    (g : Geometry) : Notice :=
  if g.isEmpty && !o.emptyGeometries then .emptyGeometry g.id objectId
  else .noContainer g.lod type g.id objectId

theorem placementNotices_eq_ite (o : Options) (type : FeatureType)
    (objectId : String) (g : Geometry) :
    g.placementNotices o type objectId =
      if g.hasPlace o type then [] else [g.report o type objectId] := by
  rw [← isWritten_eq_hasPlace, placementNotices, placement, report, isWritten]
  cases g.isEmpty && !o.emptyGeometries with
  | true => rfl
  | false =>
      cases type.container? g.lod g.kind with
      | none => rfl
      | some name => rfl

end Geometry

namespace CityObject

/-- The reports of the geometries of an object that are not written. -/
def reports (o : Options) (object : CityObject) : List Notice :=
  (object.geometries.filter fun g => !g.hasPlace o object.type).map
    (Geometry.report o object.type object.id)

theorem flatMap_placementNotices (o : Options) (type : FeatureType)
    (id : String) (geometries : List Geometry) :
    geometries.flatMap (Geometry.placementNotices o type id) =
      (geometries.filter fun g => !g.hasPlace o type).map
        (Geometry.report o type id) := by
  induction geometries with
  | nil => rfl
  | cons g rest ih =>
      rw [List.flatMap_cons, ih, Geometry.placementNotices_eq_ite,
        List.filter_cons]
      cases g.hasPlace o type with
      | true => rfl
      | false => rfl

theorem filter_reports (o : Options) (object : CityObject) :
    (object.reports o).filter Notice.isDebug =
      object.reports o := by
  rw [List.filter_eq_self, reports, List.forall_mem_map]
  intro g _
  rw [Geometry.report]
  split
  · rfl
  · rfl

theorem filter_shownAppearances (o : Options) (isRoot : Bool)
    (object : CityObject) :
    (object.shownAppearances o isRoot).notices.filter Notice.isDebug =
      [] := by
  rw [List.filter_eq_nil_iff, ThemedAppearances.notices]
  intro n hn
  obtain ⟨theme, -, htheme⟩ := List.mem_flatMap.mp hn
  rw [ThemedAppearances.themeNotices, List.mem_append, List.mem_map,
    List.mem_map] at htheme
  rcases htheme with ⟨b, -, rfl⟩ | ⟨b, -, rfl⟩
  · exact Bool.false_ne_true
  · exact Bool.false_ne_true

mutual

/-- The debug messages of an object are the reports of its geometries and of
those below it. -/
theorem filter_notices (o : Options) :
    ∀ (isRoot : Bool) (object : CityObject),
      (object.notices o isRoot).filter Notice.isDebug =
        object.subtree.flatMap (reports o)
  | isRoot, ⟨id, type, attributes, geometries, children, address, reference,
      coverage⟩ => by
    have hreports := filter_reports o ⟨id, type, attributes, geometries,
      children, address, reference, coverage⟩
    rw [reports] at hreports
    rw [notices, List.filter_append, List.filter_append,
      filter_shownAppearances, List.nil_append, flatMap_placementNotices,
      hreports, filter_childNotices o children, subtree, List.flatMap_cons,
      reports]

theorem filter_childNotices (o : Options) : ∀ children : List CityObject,
    (childNotices o children).filter Notice.isDebug =
      (forest children).flatMap (reports o)
  | [] => by
    rw [childNotices, forest]
    rfl
  | child :: rest => by
    rw [childNotices, forest, List.filter_append, List.flatMap_append,
      filter_notices o false child, filter_childNotices o rest]

end

end CityObject

/-! ## Objects without the geometries that have no place -/

mutual

/-- An object of which only the geometries with a place are left, in itself and
in the objects below it. -/
def CityObject.placedOnly (o : Options) : CityObject → CityObject
  | ⟨id, type, attributes, geometries, children, address, reference,
      coverage⟩ =>
    ⟨id, type, attributes, geometries.filter (Geometry.hasPlace o type),
      CityObject.allPlacedOnly o children, address, reference, coverage⟩

/-- Some objects of which only the geometries with a place are left. -/
def CityObject.allPlacedOnly (o : Options) : List CityObject → List CityObject
  | [] => []
  | object :: rest => object.placedOnly o :: CityObject.allPlacedOnly o rest

end

theorem Geometry.flatMap_placedFragments_filter (o : Options)
    (type : FeatureType) (geometries : List Geometry) :
    (geometries.filter (hasPlace o type)).flatMap (placedFragments o type) =
      geometries.flatMap (placedFragments o type) := by
  rw [flatMap_placedFragments, flatMap_placedFragments, List.filter_filter]
  simp only [Bool.and_self]

namespace CityObject

section PlacedOnly

variable (declared : Namespace → Bool) (o : Options)

-- Below a root no appearances are shown, so nothing at all is different there.
mutual

theorem fragment_placedOnly : ∀ object : CityObject,
    (object.placedOnly o).fragment declared o false =
      object.fragment declared o false
  | ⟨id, type, attributes, geometries, children, address, reference,
      coverage⟩ => by
    rw [placedOnly, fragment, fragment,
      Geometry.flatMap_placedFragments_filter,
      childFragments_allPlacedOnly children]
    rfl

theorem childFragments_allPlacedOnly : ∀ children : List CityObject,
    childFragments declared o (allPlacedOnly o children) =
      childFragments declared o children
  | [] => rfl
  | child :: rest => by
    rw [allPlacedOnly, childFragments, childFragments,
      fragment_placedOnly child, childFragments_allPlacedOnly rest]

end

end PlacedOnly

/-! ## The content of an object around its containers -/

variable (s : Settings) (o : Options) (object : CityObject)

/-- What stands before the appearances and the containers of an object. -/
def contentBefore : List Node :=
  Fragment.toNodes s
    (object.attributes.fragments s.isDeclared o.genericAttributes)

/-- The appearances that are written with an object. -/
def contentShown (isRoot : Bool) : List Node :=
  Fragment.toNodes s (object.shownAppearances o isRoot).fragments

/-- The containers of an object. -/
def contentHeld : List Node :=
  Fragment.toNodes s
    ((object.geometries.filter (Geometry.hasPlace o object.type)).map
      (Geometry.containerFragment object.type))

/-- What stands behind the containers of an object. -/
def contentBehind : List Node :=
  Fragment.toNodes s
    (childFragments s.isDeclared o object.children ++
      addressFragments o object.address ++
      referenceFragments o object.externalReference object.coverage)

/-- The element of an object with some content. -/
def element (content : List Node) : Node :=
  .element (s.qualify object.type.elementName object.type.thematicModule)
    (Fragment.identity object.id) content

theorem toNode_fragment (isRoot : Bool) :
    (object.fragment s.isDeclared o isRoot).toNode s =
      object.element s (object.contentBefore s o ++
        object.contentShown s o isRoot ++ object.contentHeld s o ++
        object.contentBehind s o) := by
  obtain ⟨id, type, attributes, geometries, children, address, reference,
    coverage⟩ := object
  rw [fragment, Geometry.flatMap_placedFragments, Fragment.toNode_identified]
  simp only [element, contentBefore, contentShown, contentHeld, contentBehind,
    Fragment.toNodes_append, List.append_assoc]

theorem toNode_fragment_placedOnly (isRoot : Bool) :
    ((object.placedOnly o).fragment s.isDeclared o isRoot).toNode s =
      object.element s (object.contentBefore s o ++
        (object.placedOnly o).contentShown s o isRoot ++
        object.contentHeld s o ++ object.contentBehind s o) := by
  rw [toNode_fragment]
  obtain ⟨id, type, attributes, geometries, children, address, reference,
    coverage⟩ := object
  simp only [placedOnly, element, contentBefore, contentHeld, contentBehind,
    childFragments_allPlacedOnly, List.filter_filter, Bool.and_self]

/-- The containers are all that is named like one. -/
theorem filter_isContainer (isRoot : Bool) :
    (object.contentBefore s o ++ object.contentShown s o isRoot ++
      object.contentHeld s o ++ object.contentBehind s o).filter
        Node.isContainer = object.contentHeld s o := by
  have hbehind := ((among_childFragments s.isDeclared o object.children).append
    (among_addressFragments o object.address)).append
    (among_referenceFragments o object.externalReference object.coverage)
  have hheld : (object.contentHeld s o).filter Node.isContainer =
      object.contentHeld s o := by
    rw [contentHeld, List.filter_eq_self, Fragment.toNodes_eq_map,
      List.map_map, List.forall_mem_map]
    intro g hg
    obtain ⟨-, hplace⟩ := List.mem_filter.mp hg
    rw [Geometry.hasPlace, Bool.and_eq_true, decide_eq_true_eq] at hplace
    exact Node.isContainer_containerFragment s hplace.2
  rw [List.filter_append, List.filter_append, List.filter_append, hheld,
    contentBefore, contentShown, contentBehind,
    Node.filter_isContainer_of_among s (among_attributes _ _ _),
    Node.filter_isContainer_of_among s (among_appearances _),
    Node.filter_isContainer_of_among s hbehind, List.nil_append,
    List.nil_append, List.append_nil]

theorem forall₂_contentHeld :
    List.Forall₂ (Geometry.IsHeld s object.type)
      (object.geometries.filter (Geometry.hasPlace o object.type))
      (object.contentHeld s o) :=
  Fragment.forall₂_toNodes_map s fun g _ =>
    g.isHeld_containerFragment s object.type

end CityObject

/-! ## Accounting for geometries -/

namespace Builder

/-- Every geometry is written once or reported once.  The containers in the
element of an object are, in their order, those of its geometries that have a
place, and the debug messages are one report for each geometry without a place,
in the object and then in those below.  Without these geometries the element
would be the same but for the appearances, which show what is bound to them. -/
theorem addCityObject_containers (s : Settings) (o : Options) (isRoot : Bool)
    (object : CityObject) :
    ∃ before shown shownPlaced containers behind : List Node,
      Adds (addCityObject o isRoot object) s ()
        [object.element s (before ++ shown ++ containers ++ behind)]
        (object.notices o isRoot) ∧
      Adds (addCityObject o isRoot (object.placedOnly o)) s ()
        [object.element s (before ++ shownPlaced ++ containers ++ behind)]
        ((object.placedOnly o).notices o isRoot) ∧
      shown = Fragment.toNodes s
        (object.shownAppearances o isRoot).fragments ∧
      shownPlaced = Fragment.toNodes s
        ((object.placedOnly o).shownAppearances o isRoot).fragments ∧
      (before ++ shown ++ containers ++ behind).filter Node.isContainer =
        containers ∧
      List.Forall₂ (Geometry.IsHeld s object.type)
        (object.geometries.filter (Geometry.hasPlace o object.type))
        containers ∧
      (object.notices o isRoot).filter Notice.isDebug =
        object.subtree.flatMap (CityObject.reports o) := by
  have hall := adds_addCityObject s o isRoot object
  have hplaced := adds_addCityObject s o isRoot (object.placedOnly o)
  rw [object.toNode_fragment s o isRoot] at hall
  rw [object.toNode_fragment_placedOnly s o isRoot] at hplaced
  exact ⟨_, _, _, _, _, hall, hplaced, rfl, rfl,
    object.filter_isContainer s o isRoot, object.forall₂_contentHeld s o,
    object.filter_notices o isRoot⟩

end Builder

/-- A geometry above all levels of detail that a material is bound to. -/
def Geometry.attic : Geometry :=
  ⟨"attic", 5, .roof, [⟨"beam", none, [], .empty⟩], [], [],
    Bindings.empty.addMaterial "summer" .front ⟨"attic", .plain "tiles"⟩⟩

/-- A house with some geometries. -/
def CityModel.house (geometries : List Geometry) : CityModel :=
  ⟨"", none, .unset, .empty,
    [⟨"house", .building, .empty, geometries, [], none, none, none⟩]⟩

/-- A geometry without a place does add something to a document: the material
that is bound to it. -/
theorem Writer.encode_attic :
    Geometry.attic.hasPlace .standard .building = false ∧
      ∃ root bare,
        ((encode (.house [.attic])).run (.new .standard)).state.builder.stack =
          [root] ∧
        ((encode (.house [])).run (.new .standard)).state.builder.stack =
          [bare] ∧
        ("app:Material", [("gml:id", "tiles")]) ∈ root.toNode.elements ∧
        ("app:Material", [("gml:id", "tiles")]) ∉ bare.toNode.elements := by
  have hstack : ∀ m : CityModel,
      ((encode m).run (.new .standard)).state.builder.stack =
        [m.encodedRoot .standard] := by
    intro m
    rw [run_encode_ok Options.validate_standard]
    rfl
  exact ⟨rfl, _, _, hstack (.house [.attic]), hstack (.house []),
    by decide +kernel, by decide +kernel⟩

end CityMarkup
