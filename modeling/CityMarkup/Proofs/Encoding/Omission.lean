import CityMarkup.Proofs.Encoding.Content
import CityMarkup.Proofs.Namespaces.Coverage

/-!
# What options leave out

All that options do to the content of a document is to leave elements out.
From the document that leaves nothing out one gets every other document of the
model by taking elements away, and which these are can be told from their names
and from where they stand.  Roles tell where that is: options look at what
stands in the document element and in the elements of objects, at any depth,
and at nothing else.
-/

namespace CityMarkup

/-! ## Taking elements away -/

/-- What an element of a document is there for.  A member encloses an object,
and a part belongs to one. -/
inductive Role where
  | document
  | member
  | object
  | part
deriving DecidableEq, Repr

/-- The role of an element with a name in an element with a role. -/
def Role.below (role : Role) (name : String) : Role :=
  match role with
  | document => if name = "core:cityObjectMember" then member else part
  | member => object
  | object => if name = "bldg:boundedBy" then member else part
  | part => part

namespace Options

/-- The options that leave nothing out, and are otherwise the same. -/
def complete (o : Options) : Options :=
  { o with
    appearances := true
    addresses := true
    externalReferences := true
    emptyGeometries := true
    genericAttributes := true }

/-- The names of the elements for generic attributes. -/
def genericElements : List String :=
  ["gen:stringAttribute", "gen:doubleAttribute", "gen:intAttribute",
    "gen:dateAttribute", "gen:uriAttribute"]

/-- The names of the elements for references out of the document. -/
def referenceElements : List String :=
  ["core:ExternalReference", "core:RectifiedGridCoverage"]

/-- The names of the elements that hold a geometry of an object. -/
def containerElements : List String :=
  ["bldg:lod0FootPrint", "bldg:lod1Solid", "bldg:lod2Solid",
    "bldg:lod3Solid", "bldg:lod4Solid", "bldg:lod1MultiSurface",
    "bldg:lod2MultiSurface", "bldg:lod3MultiSurface",
    "bldg:lod4MultiSurface"]

/-- Whether the content of a container is a geometry without content. -/
def holdsEmpty : List Node → Bool
  | [.element _ _ []] => true
  | _ => false

/-- Whether options leave out an element with a name and some content that
would stand in an element with a role. -/
def leavesOut (o : Options) (role : Role) (name : String)
    (content : List Node) : Bool :=
  match role with
  | .document => !o.genericAttributes && genericElements.contains name
  | .object =>
    (!o.genericAttributes && genericElements.contains name) ||
      (!o.appearances && name == "app:appearance") ||
      (!o.addresses && name == "bldg:address") ||
      (!o.externalReferences && referenceElements.contains name) ||
      (!o.emptyGeometries && containerElements.contains name &&
        holdsEmpty content)
  | .member | .part => false

end Options

/-- Whether options leave a node out of an element with a role. -/
def Node.leftOut (o : Options) (role : Role) : Node → Bool
  | .text _ => false
  | .element name _ content => o.leavesOut role name content

namespace Node

mutual

/-- A node in an element with a role, without what options leave out of it. -/
def kept (o : Options) (role : Role) : Node → Node
  | .text value => .text value
  | .element name attributes content =>
    .element name attributes (keptAll o (role.below name) content)

/-- The content of an element with a role, without what options leave out. -/
def keptAll (o : Options) (role : Role) : List Node → List Node
  | [] => []
  | node :: rest =>
    if leftOut o role node then keptAll o role rest
    else kept o role node :: keptAll o role rest

end

variable {o : Options} {role : Role}

theorem keptAll_append (first second : List Node) :
    keptAll o role (first ++ second) =
      keptAll o role first ++ keptAll o role second := by
  induction first with
  | nil => rfl
  | cons node rest ih =>
      rw [List.cons_append, keptAll, keptAll, ih]
      split <;> rfl

mutual

theorem kept_part : ∀ node : Node, kept o .part node = node
  | .text value => rfl
  | .element name attributes content => by
    rw [kept, Role.below, keptAll_part content]

/-- Nothing is taken away inside of a part. -/
theorem keptAll_part : ∀ nodes : List Node, keptAll o .part nodes = nodes
  | [] => rfl
  | node :: rest => by
    have hstays : leftOut o .part node = false := by
      cases node <;> rfl
    rw [keptAll, hstays, kept_part node, keptAll_part rest]
    rfl

end

end Node

/-! ## Names that options take no notice of -/

/-- The names that matter for what is left out. -/
def Options.noticedElements : List String :=
  genericElements ++ referenceElements ++ containerElements ++
    ["app:appearance", "bldg:address", "bldg:boundedBy",
      "core:cityObjectMember"]

namespace Node

open Options

/-- An element without objects in it stays where it is wanted. -/
theorem keptAll_wanted {o : Options} {role : Role} {name : String}
    {content : List Node} {wanted : Bool} (hrole : role.below name = .part)
    (hleft : o.leavesOut role name content = !wanted)
    (attributes : List (String × String)) :
    keptAll o role [.element name attributes content] =
      if wanted then [.element name attributes content] else [] := by
  rw [keptAll, kept, hrole, keptAll_part, leftOut, hleft]
  cases wanted <;> rfl

/-- Elements of the document element and of objects with other names stay. -/
theorem keptAll_unnoticed {o : Options} {role : Role} {name : String}
    (h : name ∉ noticedElements) (hrole : role = .document ∨ role = .object)
    (attributes : List (String × String)) (content : List Node) :
    keptAll o role [.element name attributes content] =
      [.element name attributes content] := by
  simp only [noticedElements, List.mem_append, List.mem_cons, List.not_mem_nil,
    or_false, not_or] at h
  obtain ⟨⟨⟨hgeneric, hreference⟩, hcontainer⟩, happearance, haddress,
    hboundary, hmember⟩ := h
  have hbelow : role.below name = .part := by
    rcases hrole with rfl | rfl
    · rw [Role.below, if_neg hmember]
    · rw [Role.below, if_neg hboundary]
  have hstays : o.leavesOut role name content = !true := by
    rcases hrole with rfl | rfl <;>
      simp [leavesOut, hgeneric, hreference, hcontainer, happearance, haddress]
  exact keptAll_wanted hbelow hstays attributes

/-- The elements for generic attributes stay if these are wanted. -/
theorem keptAll_generic {o : Options} {role : Role} {name : String}
    (hname : name ∈ genericElements)
    (hrole : role = .document ∨ role = .object)
    (attributes : List (String × String)) (content : List Node) :
    keptAll o role [.element name attributes content] =
      if o.genericAttributes then [.element name attributes content]
      else [] := by
  have hother : ∀ name ∈ genericElements,
      name ≠ "core:cityObjectMember" ∧ name ≠ "bldg:boundedBy" ∧
        name ≠ "app:appearance" ∧ name ≠ "bldg:address" ∧
        name ∉ referenceElements ∧ name ∉ containerElements := by
    decide
  obtain ⟨hmember, hboundary, happearance, haddress, hreference, hcontainer⟩ :=
    hother name hname
  have hbelow : role.below name = .part := by
    rcases hrole with rfl | rfl
    · rw [Role.below, if_neg hmember]
    · rw [Role.below, if_neg hboundary]
  have hleft : o.leavesOut role name content = !o.genericAttributes := by
    rw [Bool.eq_iff_iff]
    rcases hrole with rfl | rfl <;>
      simp [leavesOut, hname, happearance, haddress, hreference, hcontainer]
  exact keptAll_wanted hbelow hleft attributes

/-- The elements for references stay if these are wanted. -/
theorem keptAll_reference {o : Options} {name : String}
    (hname : name ∈ referenceElements)
    (attributes : List (String × String)) (content : List Node) :
    keptAll o .object [.element name attributes content] =
      if o.externalReferences then [.element name attributes content]
      else [] := by
  have hother : ∀ name ∈ referenceElements,
      name ≠ "bldg:boundedBy" ∧ name ≠ "app:appearance" ∧
        name ≠ "bldg:address" ∧ name ∉ genericElements ∧
        name ∉ containerElements := by
    decide
  obtain ⟨hboundary, happearance, haddress, hgeneric, hcontainer⟩ :=
    hother name hname
  have hbelow : Role.below .object name = .part := by
    rw [Role.below, if_neg hboundary]
  have hleft : o.leavesOut .object name content = !o.externalReferences := by
    rw [Bool.eq_iff_iff]
    simp [leavesOut, hname, happearance, haddress, hgeneric, hcontainer]
  exact keptAll_wanted hbelow hleft attributes

/-- The elements that hold geometries stay, unless the geometry is empty and
empty geometries are not wanted. -/
theorem keptAll_container {o : Options} {name : String}
    (hname : name ∈ containerElements)
    (attributes : List (String × String)) (content : List Node) :
    keptAll o .object [.element name attributes content] =
      if !(holdsEmpty content && !o.emptyGeometries) then
        [.element name attributes content]
      else [] := by
  have hother : ∀ name ∈ containerElements,
      name ≠ "bldg:boundedBy" ∧ name ≠ "app:appearance" ∧
        name ≠ "bldg:address" ∧ name ∉ genericElements ∧
        name ∉ referenceElements := by
    decide
  obtain ⟨hboundary, happearance, haddress, hgeneric, hreference⟩ :=
    hother name hname
  have hbelow : Role.below .object name = .part := by
    rw [Role.below, if_neg hboundary]
  have hleft : o.leavesOut .object name content =
      !!(holdsEmpty content && !o.emptyGeometries) := by
    rw [Bool.eq_iff_iff]
    simp [leavesOut, hname, happearance, haddress, hgeneric, hreference,
      and_comm]
  exact keptAll_wanted hbelow hleft attributes

/-- What is kept of fragments made from a list follows from what is kept for
each item. -/
theorem keptAll_flatMap {α : Type} {o : Options} {role : Role} {s : Settings}
    {f g : α → List Fragment}
    (h : ∀ a, keptAll o role (Fragment.toNodes s (f a)) =
      Fragment.toNodes s (g a)) (l : List α) :
    keptAll o role (Fragment.toNodes s (l.flatMap f)) =
      Fragment.toNodes s (l.flatMap g) := by
  induction l with
  | nil => rfl
  | cons a rest ih =>
      rw [List.flatMap_cons, List.flatMap_cons, Fragment.toNodes_append,
        Fragment.toNodes_append, keptAll_append, h a, ih]

end Node

section Segments

open Options Node

variable {s : Settings} (o : Options)

theorem Settings.prefixed {ns : Namespace} {short name written : String}
    (hshort : ns.abbreviation = some short)
    (hwritten : short ++ ":" ++ name = written)
    (hdeclared : s.isDeclared ns = true) : s.qualify name ns = written := by
  rw [qualify_of_isDeclared hshort hdeclared, hwritten]

/-! ## Attributes -/

theorem KnownAttribute.qualify_notMem {known : KnownAttribute}
    (hmem : known ∈ KnownAttribute.all)
    (hdeclared : s.isDeclared known.ns = true) :
    s.qualify known.localName known.ns ∉ noticedElements := by
  have key : ∀ known ∈ KnownAttribute.all, ∀ short ∈ known.ns.abbreviation,
      short ++ ":" ++ known.localName ∉ noticedElements := by
    decide +kernel
  obtain ⟨-, hne⟩ := KnownAttribute.plain_of_mem hmem
  obtain ⟨short, hshort⟩ := Option.isSome_iff_exists.mp
    (Namespace.abbreviation_isSome hne)
  rw [Settings.qualify_of_isDeclared hshort hdeclared]
  exact key known hmem short hshort

theorem AttributeValue.qualify_mem
    (hdeclared : s.isDeclared .generics = true) (value : AttributeValue) :
    s.qualify value.genericName .generics ∈ genericElements := by
  rw [Settings.qualify_of_isDeclared rfl hdeclared]
  cases value <;> rw [genericName] <;> decide +kernel

theorem Attributes.keptAll_entry {role : Role}
    (hrole : role = .document ∨ role = .object)
    (hgenerics : s.isDeclared .generics = true)
    (entry : String × AttributeValue) :
    keptAll o role (Fragment.toNodes s
        (entryFragments s.isDeclared true entry)) =
      Fragment.toNodes s
        (entryFragments s.isDeclared o.genericAttributes entry) := by
  rw [entryFragments, entryFragments]
  cases hlookup : (KnownAttribute.lookup? entry.1).filter
      (fun known => s.isDeclared known.ns) with
  | some known =>
      obtain ⟨hfound, hdeclared⟩ := Option.filter_eq_some_iff.mp hlookup
      have hname := KnownAttribute.qualify_notMem
        (List.mem_of_find?_eq_some hfound) hdeclared
      exact keptAll_unnoticed hname hrole _ _
  | none =>
      have hname := entry.2.qualify_mem hgenerics
      simp only [if_pos]
      rw [AttributeValue.genericFragment, Fragment.toNodes, Fragment.toNode,
        Fragment.toNodes, keptAll_generic hname hrole]
      split <;> rfl

theorem Attributes.keptAll_fragments {role : Role}
    (hrole : role = .document ∨ role = .object)
    (hgenerics : s.isDeclared .generics = true) (attributes : Attributes) :
    keptAll o role (Fragment.toNodes s
        (attributes.fragments s.isDeclared o.complete.genericAttributes)) =
      Fragment.toNodes s
        (attributes.fragments s.isDeclared o.genericAttributes) :=
  keptAll_flatMap (Attributes.keptAll_entry o hrole hgenerics)
    attributes.entries

/-! ## Appearances, addresses and references -/

theorem ThemedAppearances.keptAll_fragments
    (happearance : s.isDeclared .appearance = true) (t : ThemedAppearances) :
    keptAll o .object (Fragment.toNodes s t.fragments) =
      if o.appearances then Fragment.toNodes s t.fragments else [] := by
  have hname : s.qualify "appearance" .appearance = "app:appearance" :=
    Settings.prefixed rfl (by decide) happearance
  have hleft : ∀ content,
      o.leavesOut .object "app:appearance" content = !o.appearances := by
    intro content
    simp [leavesOut, genericElements, referenceElements, containerElements]
  rw [fragments]
  split
  · simp [Fragment.toNodes, keptAll]
  · rw [Fragment.toNodes, Fragment.toNodes, Fragment.wrap, Fragment.toNode,
      hname, keptAll_wanted rfl (hleft _)]

theorem CityObject.keptAll_shownAppearances
    (happearance : s.isDeclared .appearance = true) (isRoot : Bool)
    (object : CityObject) :
    keptAll o .object (Fragment.toNodes s
        (object.shownAppearances o.complete isRoot).fragments) =
      Fragment.toNodes s (object.shownAppearances o isRoot).fragments := by
  rw [ThemedAppearances.keptAll_fragments o happearance, shownAppearances,
    shownAppearances, complete]
  cases isRoot with
  | false =>
      split <;> rfl
  | true =>
      cases o.appearances <;> rfl

theorem CityObject.keptAll_addressFragments {address : Option Address}
    (hbuilding : address ≠ none → s.isDeclared .building = true) :
    keptAll o .object (Fragment.toNodes s
        (addressFragments o.complete address)) =
      Fragment.toNodes s (addressFragments o address) := by
  cases address with
  | none => simp [addressFragments, Fragment.toNodes, keptAll]
  | some a =>
      have hname : s.qualify "address" .building = "bldg:address" :=
        Settings.prefixed rfl (by decide) (hbuilding (Option.some_ne_none a))
      have hleft : ∀ content,
          o.leavesOut .object "bldg:address" content = !o.addresses := by
        intro content
        simp [leavesOut, genericElements, referenceElements, containerElements]
      rw [addressFragments, addressFragments, complete, if_pos rfl,
        Option.toList_some, List.map_singleton, Fragment.toNodes,
        Fragment.toNodes, Fragment.wrap, Fragment.toNode, hname,
        keptAll_wanted rfl (hleft _)]
      cases o.addresses with
      | false => rfl
      | true => simp [Fragment.toNodes, Fragment.toNode, hname]

theorem CityObject.keptAll_referenceFragments
    (hcore : s.isDeclared .core = true)
    (reference : Option ExternalReference) (coverage : Option GridCoverage) :
    keptAll o .object (Fragment.toNodes s
        (referenceFragments o.complete reference coverage)) =
      Fragment.toNodes s (referenceFragments o reference coverage) := by
  have href : s.qualify "ExternalReference" .core = "core:ExternalReference" :=
    Settings.prefixed rfl (by decide +kernel) hcore
  have hgrid : s.qualify "RectifiedGridCoverage" .core =
      "core:RectifiedGridCoverage" :=
    Settings.prefixed rfl (by decide +kernel) hcore
  have hfirst : keptAll o .object (Fragment.toNodes s
      (reference.toList.map ExternalReference.fragment)) =
      if o.externalReferences then Fragment.toNodes s
        (reference.toList.map ExternalReference.fragment) else [] := by
    cases reference with
    | none => simp [Fragment.toNodes, keptAll]
    | some r =>
        rw [Option.toList_some, List.map_singleton, Fragment.toNodes,
          Fragment.toNodes, ExternalReference.fragment, Fragment.toNode, href,
          keptAll_reference (by decide)]
  have hsecond : keptAll o .object (Fragment.toNodes s
      (coverage.toList.map GridCoverage.fragment)) =
      if o.externalReferences then Fragment.toNodes s
        (coverage.toList.map GridCoverage.fragment) else [] := by
    cases coverage with
    | none => simp [Fragment.toNodes, keptAll]
    | some c =>
        rw [Option.toList_some, List.map_singleton, Fragment.toNodes,
          Fragment.toNodes, GridCoverage.fragment, Fragment.toNode, hgrid,
          keptAll_reference (by decide)]
  rw [referenceFragments, referenceFragments, complete, if_pos rfl,
    Fragment.toNodes_append, keptAll_append, hfirst, hsecond]
  cases o.externalReferences with
  | false => rfl
  | true => simp only [if_pos, Fragment.toNodes_append]

/-! ## Geometries -/

theorem FeatureType.thematicModule_of_container? {type : FeatureType}
    {lod : Nat} {kind : GeometryKind} {name : String}
    (h : type.container? lod kind = some name) :
    type.thematicModule = .building := by
  cases type <;> first | rfl | cases h

/-- Nothing stands in the element of an empty geometry, and something in that
of any other. -/
theorem Geometry.holdsEmpty_fragment (g : Geometry) :
    holdsEmpty [g.fragment.toNode s] = g.isEmpty := by
  have hholds : ∀ name attributes (content : List Fragment),
      holdsEmpty [.element name attributes (Fragment.toNodes s content)] =
        content.isEmpty := by
    intro name attributes content
    cases content <;> rfl
  rw [fragment_eq, Fragment.toNode, hholds, isEmpty, enclose]
  split
  · rename_i hsolid
    have hchildren := GeometryKind.infer_eq_solid_iff.mp hsolid
    rw [Ne, List.length_eq_zero_iff, ← List.isEmpty_iff,
      Bool.not_eq_true] at hchildren
    rw [hchildren, Bool.and_false]
    rfl
  · cases g.polygons <;> cases g.lines <;> cases g.children <;> rfl

theorem Geometry.placedFragments_eq (o : Options) (type : FeatureType)
    (g : Geometry) :
    g.placedFragments o type =
      if g.isEmpty && !o.emptyGeometries then []
      else (type.container? g.lod g.kind).toList.map fun name =>
        .wrap name type.thematicModule [g.fragment] := by
  rw [placedFragments, placement]
  by_cases hempty : (g.isEmpty && !o.emptyGeometries) = true
  · rw [if_pos hempty, if_pos hempty]
  · rw [if_neg hempty, if_neg hempty]
    cases type.container? g.lod g.kind <;> rfl

/-- Whether a geometry of an object of the given type is written. -/
def Geometry.isWritten (o : Options) (type : FeatureType) (g : Geometry) :
    Bool :=
  !(g.isEmpty && !o.emptyGeometries) && (type.container? g.lod g.kind).isSome

/-- A geometry is written in its container, or not at all. -/
theorem Geometry.placedFragments_of_isWritten {o : Options}
    {type : FeatureType} {g : Geometry} (h : g.isWritten o type = true) :
    ∃ name, type.container? g.lod g.kind = some name ∧
      g.placedFragments o type =
        [.wrap name type.thematicModule [g.fragment]] := by
  rw [isWritten, Bool.and_eq_true, Bool.not_eq_true'] at h
  obtain ⟨name, hname⟩ := Option.isSome_iff_exists.mp h.2
  refine ⟨name, hname, ?_⟩
  rw [placedFragments_eq, if_neg (Bool.eq_false_iff.mp h.1), hname]
  rfl

theorem Geometry.placedFragments_of_not_isWritten {o : Options}
    {type : FeatureType} {g : Geometry} (h : ¬g.isWritten o type = true) :
    g.placedFragments o type = [] := by
  rw [isWritten, Bool.and_eq_true, Bool.not_eq_true', not_and] at h
  rw [placedFragments_eq]
  split
  · rfl
  · rename_i hkept
    rw [Option.not_isSome_iff_eq_none.mp (h (Bool.eq_false_iff.mpr hkept))]
    rfl

theorem Geometry.keptAll_placedFragments {type : FeatureType}
    (hdeclared : s.isDeclared type.thematicModule = true) (g : Geometry) :
    keptAll o .object (Fragment.toNodes s
        (g.placedFragments o.complete type)) =
      Fragment.toNodes s (g.placedFragments o type) := by
  rw [placedFragments_eq, placedFragments_eq, complete, Bool.not_true,
    Bool.and_false, if_neg Bool.false_ne_true]
  cases hcontainer : type.container? g.lod g.kind with
  | none => split <;> rfl
  | some name =>
      have key : ∀ name ∈ FeatureType.containerNames,
          "bldg" ++ ":" ++ name ∈ containerElements := by
        decide +kernel
      have hname := key name (FeatureType.mem_containerNames hcontainer)
      have hmodule := FeatureType.thematicModule_of_container? hcontainer
      rw [hmodule] at hdeclared ⊢
      have hnode : Fragment.toNodes s
          [.wrap name .building [g.fragment]] =
          [.element ("bldg" ++ ":" ++ name) [] [g.fragment.toNode s]] := by
        rw [Fragment.toNodes, Fragment.toNodes, Fragment.wrap,
          Fragment.toNode, Fragment.toNodes, Fragment.toNodes,
          Settings.qualify_of_isDeclared rfl hdeclared name]
        rfl
      rw [Option.toList_some, List.map_singleton, hnode,
        keptAll_container hname, g.holdsEmpty_fragment]
      cases g.isEmpty && !o.emptyGeometries with
      | false => exact hnode.symm
      | true => rfl

/-! ## Objects -/

/-- An element with an object in it stays, with what is left of the object. -/
theorem keptAll_wrap {role : Role} {name written : String} {ns : Namespace}
    (hwritten : s.qualify name ns = written)
    (hrole : role.below written = .member)
    (hstays : ∀ content, o.leavesOut role written content = false)
    {full fewer : Fragment} (hobject : kept o .member (full.toNode s) =
      fewer.toNode s) {rest rest' : List Fragment}
    (hrest : keptAll o role (Fragment.toNodes s rest) =
      Fragment.toNodes s rest') :
    keptAll o role (Fragment.toNodes s (.wrap name ns [full] :: rest)) =
      Fragment.toNodes s (.wrap name ns [fewer] :: rest') := by
  have hmember : leftOut o .member (full.toNode s) = false := by
    cases full.toNode s <;> rfl
  have hinner : keptAll o .member (Fragment.toNodes s [full]) =
      Fragment.toNodes s [fewer] := by
    rw [Fragment.toNodes, Fragment.toNodes, keptAll, hmember, hobject]
    rfl
  rw [Fragment.toNodes, Fragment.toNodes, Fragment.wrap, Fragment.wrap,
    Fragment.toNode, Fragment.toNode, hwritten, keptAll, leftOut, hstays,
    kept, hrole, hinner, hrest]
  rfl

namespace CityObject

mutual

/-- What is left of the element of an object, at every depth, is its element
under the options that leave something out. -/
theorem kept_fragment :
    ∀ (isRoot : Bool) (object : CityObject),
      DeclaresFor s.isDeclared object.subtree →
      kept o .member
          ((object.fragment s.isDeclared o.complete isRoot).toNode s) =
        (object.fragment s.isDeclared o isRoot).toNode s
  | isRoot, ⟨id, type, attributes, geometries, children, address, reference,
      coverage⟩, h => by
    let object : CityObject := ⟨id, type, attributes, geometries, children,
      address, reference, coverage⟩
    have hself : object ∈ object.subtree := mem_subtree_self object
    have hbuilding : children ≠ [] → s.isDeclared .building = true := by
      intro hchildren
      exact h.needed object hself .building
        (needs_building_of_child hchildren)
    have haddress : address ≠ none → s.isDeclared .building = true := by
      intro hsome
      obtain ⟨a, ha⟩ := Option.ne_none_iff_exists'.mp hsome
      exact h.needed object hself .building (needs_of_address ha).1
    have htype := h.needed object hself _ object.needs_thematicModule
    rw [fragment, fragment, Fragment.toNode, Fragment.toNode, kept, Role.below]
    simp only [Fragment.toNodes_append, keptAll_append]
    rw [Attributes.keptAll_fragments o (Or.inr rfl)
        (h.always .generics (by decide)) attributes,
      keptAll_shownAppearances o (h.always .appearance (by decide)) isRoot
        object,
      keptAll_flatMap (Geometry.keptAll_placedFragments o htype) geometries,
      keptAll_childFragments children hbuilding h.below,
      keptAll_addressFragments o haddress,
      keptAll_referenceFragments o (h.always .core (by decide))]

theorem keptAll_childFragments :
    ∀ children : List CityObject,
      (children ≠ [] → s.isDeclared .building = true) →
      DeclaresFor s.isDeclared (forest children) →
      keptAll o .object (Fragment.toNodes s
          (childFragments s.isDeclared o.complete children)) =
        Fragment.toNodes s (childFragments s.isDeclared o children)
  | [], _, _ => by
    rw [childFragments, childFragments]
    rfl
  | child :: rest, hbuilding, h => by
    obtain ⟨hfirst, hrest⟩ := h.of_forest_cons
    have hdeclared := hbuilding (List.cons_ne_nil child rest)
    have hname : s.qualify "boundedBy" .building = "bldg:boundedBy" :=
      Settings.prefixed rfl (by decide) hdeclared
    have hstays : ∀ content,
        o.leavesOut .object "bldg:boundedBy" content = false := by
      intro content
      simp [leavesOut, genericElements, referenceElements, containerElements]
    rw [childFragments, childFragments]
    exact keptAll_wrap o hname rfl hstays (kept_fragment false child hfirst)
      (keptAll_childFragments rest (fun _ => hdeclared) hrest)

end

end CityObject

end Segments

/-! ## Models -/

namespace CityModel

open Node

variable (o : Options) (m : CityModel)

theorem keptAll_members {objects : List CityObject}
    (h : DeclaresFor (m.settings o).isDeclared (CityObject.forest objects)) :
    keptAll o .document (Fragment.toNodes (m.settings o) (objects.map
        (memberFragment (m.settings o).isDeclared o.complete))) =
      Fragment.toNodes (m.settings o) (objects.map
        (memberFragment (m.settings o).isDeclared o)) := by
  have hname : (m.settings o).qualify "cityObjectMember" .core =
      "core:cityObjectMember" :=
    Settings.prefixed rfl (by decide +kernel) (h.always .core (by decide))
  have hstays : ∀ content,
      o.leavesOut .document "core:cityObjectMember" content = false := by
    intro content
    simp [Options.leavesOut, Options.genericElements]
  induction objects with
  | nil => rfl
  | cons object rest ih =>
      obtain ⟨hfirst, hrest⟩ := h.of_forest_cons
      exact keptAll_wrap o hname rfl hstays
        (object.kept_fragment o true hfirst) (ih hrest)

theorem keptAll_fragments :
    keptAll o .document (Fragment.toNodes (m.settings o)
        (m.fragments (m.settings o).isDeclared o.complete)) =
      Fragment.toNodes (m.settings o)
        (m.fragments (m.settings o).isDeclared o) := by
  have hdeclares := declaresFor_settings o m
  have hname : (m.settings o).qualify "boundedBy" .gml = "gml:boundedBy" :=
    Settings.prefixed rfl (by decide) (hdeclares.always .gml (by decide))
  have hextent : keptAll o .document (Fragment.toNodes (m.settings o)
      (if m.envelope.isDefined then [m.envelope.fragment] else [])) =
      Fragment.toNodes (m.settings o)
        (if m.envelope.isDefined then [m.envelope.fragment] else []) := by
    split
    · rw [Fragment.toNodes, Fragment.toNodes, Envelope.fragment,
        Fragment.wrap, Fragment.toNode, hname]
      exact keptAll_unnoticed (by decide +kernel) (Or.inl rfl) _ _
    · rfl
  rw [fragments, fragments]
  simp only [Fragment.toNodes_append, keptAll_append]
  rw [Attributes.keptAll_fragments o (Or.inl rfl)
      (hdeclares.always .generics (by decide)) m.attributes, hextent,
    keptAll_members o m hdeclares]

/-- The document element under some options is what is left of the document
element that leaves nothing out. -/
theorem encodedRoot_eq_kept :
    m.encodedRoot o =
      { m.encodedRoot o.complete with
        children := keptAll o .document (m.encodedRoot o.complete).children }
    := by
  have hsettings : m.settings o.complete = m.settings o := rfl
  rw [encodedRoot, encodedRoot, hsettings, documentElement, documentElement,
    ← keptAll_fragments]

end CityModel

namespace Writer

/-- The writer encodes the model, and its document then has this document
element with nothing else open. -/
def Builds (w : Writer) (m : CityModel) (root : OpenElement) : Prop :=
  ((encode m).run w).result = .ok () ∧
    ((encode m).run w).state.builder.stack = [root]

theorem builds_encodedRoot {w : Writer} {o : Options} (m : CityModel)
    (h : w.options.validate = .ok ()) (hcontent : w.options.SameContent o) :
    w.Builds m (m.encodedRoot o) := by
  rw [← m.encodedRoot_congr hcontent, Builds, run_encode_ok h]
  exact ⟨rfl, rfl⟩

/-- The document of a model is what options leave of the document that leaves
nothing out.  Its document element has the same name and the same attributes,
and the options for the layout, the validation and the levels of detail make
no difference. -/
theorem encode_keeps (w : Writer) (m : CityModel)
    (h : w.options.validate = .ok ()) :
    ∃ root full : OpenElement,
      w.Builds m root ∧
      { w with options := w.options.complete }.Builds m full ∧
      root.name = full.name ∧
      root.attributes = full.attributes ∧
      root.children = Node.keptAll w.options .document full.children ∧
      ∀ (prettyPrint optimizeForSize validation lodInfo : Bool)
        (indentSize : Nat),
        let options := { w.options with
          prettyPrint, indentSize, optimizeForSize, validation, lodInfo }
        { w with options }.Builds m root := by
  refine ⟨m.encodedRoot w.options, m.encodedRoot w.options.complete,
    builds_encodedRoot m h ⟨rfl, rfl, rfl, rfl, rfl⟩,
    builds_encodedRoot m h ⟨rfl, rfl, rfl, rfl, rfl⟩, ?_, ?_, ?_, ?_⟩
  · rw [m.encodedRoot_eq_kept w.options]
  · rw [m.encodedRoot_eq_kept w.options]
  · rw [m.encodedRoot_eq_kept w.options]
  · intro prettyPrint optimizeForSize validation lodInfo indentSize options
    exact builds_encodedRoot m h ⟨rfl, rfl, rfl, rfl, rfl⟩

/-- Of the park the address is left out, and nothing of its wall. -/
theorem encode_keeps_park :
    let o := { Options.standard with addresses := false }
    ∃ root full : OpenElement, (Writer.new o).Builds .park root ∧
      root.children = Node.keptAll o .document full.children ∧
      (Node.allElements root.children).map Prod.fst =
        ["core:cityObjectMember", "luse:LandUse", "bldg:boundedBy",
          "bldg:WallSurface"] ∧
      "bldg:address" ∈ (Node.allElements full.children).map Prod.fst := by
  intro o
  obtain ⟨root, full, hroot, hfull, -, -, hchildren, -⟩ :=
    encode_keeps (.new o) .park Options.validate_standard
  have hfull' := (builds_encodedRoot (w := .new o.complete) .park
    Options.validate_standard ⟨rfl, rfl, rfl, rfl, rfl⟩).2
  obtain rfl := List.singleton_inj.mp (hfull.2.symm.trans hfull')
  refine ⟨root, _, hroot, hchildren, ?_, ?_⟩
  · rw [hchildren]
    decide +kernel
  · decide +kernel

end Writer

end CityMarkup
