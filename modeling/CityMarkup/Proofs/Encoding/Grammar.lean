import CityMarkup.Proofs.Appearance.Blocks
import CityMarkup.Proofs.Encoding.Nodes
import CityMarkup.Proofs.Encoding.Omission
import CityMarkup.Proofs.Namespaces.Exactness

/-!
# The grammar of a document

Which elements stand in the element of an object, and in which order, at any
depth: the written attributes, the appearances of a root, the containers of the
written geometries, the objects below, the address and the references.  The
parts that may be missing are there exactly if the model has them and the
options ask for them.  The document element holds the written attributes of the
model, its extent if that is defined, and its objects.
-/

namespace CityMarkup

/-! ## Parts of an element -/

/-- Whether some nodes are one node of a sort, if a condition holds, and no
nodes otherwise. -/
def Optionally (condition : Prop) (sort : Node → Prop) (nodes : List Node) :
    Prop :=
  (condition → ∃ node, sort node ∧ nodes = [node]) ∧ (¬condition → nodes = [])

/-- Whether a node is an element with a name. -/
def Node.IsNamed (name : String) (node : Node) : Prop :=
  ∃ attributes content, node = .element name attributes content

section Grammar

variable (used : Namespace → Prop) (o : Options)

/-- Whether an attribute is written, where some namespaces are used: as a
property of one of these, or as a generic attribute. -/
def Writes (entry : String × AttributeValue) : Prop :=
  o.genericAttributes = true ∨
    ∃ known, KnownAttribute.lookup? entry.1 = some known ∧ used known.ns

/-- The element for an attribute: a property of a namespace that is used, or
else a generic attribute. -/
inductive IsAttribute : String × AttributeValue → Node → Prop where
  | property {name : String} {value : AttributeValue} {known : KnownAttribute}
      {short : String} (hknown : KnownAttribute.lookup? name = some known)
      (hused : used known.ns) (hshort : known.ns.abbreviation = some short) :
      IsAttribute (name, value)
        (.element (short ++ ":" ++ known.localName) [] [.text value.text])
  | generic {name : String} {value : AttributeValue}
      (hother : ∀ known, KnownAttribute.lookup? name = some known →
        ¬used known.ns) :
      IsAttribute (name, value)
        (.element ("gen:" ++ value.genericName) [("name", name)]
          [.element "gen:value" [] [.text value.text]])

/-- The elements for the written attributes, in the order of their names. -/
def AreAttributes (attributes : Attributes) (nodes : List Node) : Prop :=
  ∃ written : List (String × AttributeValue),
    written.Pairwise (fun a b => a.1 < b.1) ∧
    (∀ entry, entry ∈ written ↔
      entry ∈ attributes.entries ∧ Writes used o entry) ∧
    List.Forall₂ (IsAttribute used) written nodes

/-- The container of a geometry, with the geometry and nothing else in it. -/
def IsContainer (type : FeatureType) (g : Geometry) (node : Node) : Prop :=
  ∃ name inner, type.container? g.lod g.kind = some name ∧
    node = .element ("bldg:" ++ name) [] [inner] ∧
    inner.IsNamed ("gml:" ++ g.kind.elementName)

/-- All numbers of an envelope. -/
def Envelope.bounds (e : Envelope) : List Double :=
  [e.lower.x, e.lower.y, e.lower.z, e.upper.x, e.upper.y, e.upper.z]

/-- The element for a coverage, which holds its extent if all bounds of that are
numbers and not all are zero. -/
def IsCoverage (c : GridCoverage) (node : Node) : Prop :=
  ∃ attributes content,
    node = .element "core:RectifiedGridCoverage" attributes content ∧
    Optionally
      ((∀ x ∈ c.envelope.bounds, x.isNaN = false) ∧
        ¬∀ x ∈ c.envelope.bounds, x.isZero = true)
      (Node.IsNamed "gml:boundedBy") content

mutual

/-- The element for an object: its parts in their order, and only elements
among them. -/
inductive IsObject : Bool → CityObject → Node → Prop where
  | element {isRoot : Bool} {object : CityObject} {short : String}
      {content attributes appearance containers boundaries address reference
        coverage : List Node}
      (hshort : object.type.thematicModule.abbreviation = some short)
      (hcontent : content = attributes ++ appearance ++ containers ++
        boundaries ++ address ++ reference ++ coverage)
      (helements : ∀ node ∈ content, node.isElement = true)
      (hattributes : AreAttributes used o object.attributes attributes)
      (happearance : Optionally
        (isRoot = true ∧ o.appearances = true ∧
          ∃ b ∈ object.targets, b.isEmpty = false)
        (Node.IsNamed "app:appearance") appearance)
      (hcontainers : List.Forall₂ (IsContainer object.type)
        (object.geometries.filter (Geometry.isWritten o object.type))
        containers)
      (hboundaries : AreBoundaries object.children boundaries)
      (haddress : Optionally
        (o.addresses = true ∧ object.address.isSome = true)
        (Node.IsNamed "bldg:address") address)
      (hreference : Optionally
        (o.externalReferences = true ∧ object.externalReference.isSome = true)
        (Node.IsNamed "core:ExternalReference") reference)
      (hcoverage : Optionally
        (o.externalReferences = true ∧ object.coverage.isSome = true)
        (fun node => ∃ c, object.coverage = some c ∧ IsCoverage c node)
        coverage) :
      IsObject isRoot object
        (.element (short ++ ":" ++ object.type.elementName)
          (Fragment.identity object.id) content)

/-- The elements for the objects below an object: each stands alone in an
element of its own. -/
inductive AreBoundaries : List CityObject → List Node → Prop where
  | nil : AreBoundaries [] []
  | cons {child : CityObject} {rest : List CityObject} {node : Node}
      {nodes : List Node} (hchild : IsObject false child node)
      (hrest : AreBoundaries rest nodes) :
      AreBoundaries (child :: rest)
        (.element "bldg:boundedBy" [] [node] :: nodes)

end

/-- The element for a root object stands alone in an element of its own. -/
def IsMember (object : CityObject) (member : Node) : Prop :=
  ∃ node, member = .element "core:cityObjectMember" [] [node] ∧
    IsObject used o true object node

end Grammar

/-- The document element for a model: its parts in their order. -/
structure IsDocument (o : Options) (m : CityModel) (root : OpenElement) :
    Prop where
  name : root.name = "CityModel"
  content : ∃ attributes extent members,
    root.children = attributes ++ extent ++ members ∧
    AreAttributes (Namespace.IsUsedBy · m.objects) o m.attributes attributes ∧
    Optionally (∀ x ∈ m.envelope.bounds, x.isNaN = false)
      (Node.IsNamed "gml:boundedBy") extent ∧
    List.Forall₂ (IsMember (Namespace.IsUsedBy · m.objects) o) m.objects
      members

/-! ## Only elements -/

theorem Node.IsNamed.isElement {name : String} {node : Node}
    (h : node.IsNamed name) : node.isElement = true := by
  obtain ⟨attributes, content, rfl⟩ := h
  rfl

theorem Optionally.forall_mem {condition : Prop} {sort P : Node → Prop}
    {nodes : List Node} (h : Optionally condition sort nodes)
    (hsort : ∀ node, sort node → P node) : ∀ node ∈ nodes, P node := by
  by_cases hcondition : condition
  · obtain ⟨node, hnode, rfl⟩ := h.1 hcondition
    exact List.forall_mem_singleton.mpr (hsort node hnode)
  · rw [h.2 hcondition]
    exact List.forall_mem_nil P

theorem forall_mem_of_forall₂ {α β : Type} {R : α → β → Prop} {P : β → Prop}
    {as : List α} {bs : List β} (h : List.Forall₂ R as bs)
    (hR : ∀ a b, R a b → P b) : ∀ b ∈ bs, P b := by
  induction h with
  | nil => exact List.forall_mem_nil P
  | cons hfirst _ ih => exact List.forall_mem_cons.mpr ⟨hR _ _ hfirst, ih⟩

section Elements

variable {used : Namespace → Prop} {o : Options}

theorem AreAttributes.isElement {attributes : Attributes} {nodes : List Node}
    (h : AreAttributes used o attributes nodes) :
    ∀ node ∈ nodes, node.isElement = true := by
  obtain ⟨written, -, -, hnodes⟩ := h
  refine forall_mem_of_forall₂ hnodes fun entry node hnode => ?_
  cases hnode with
  | property => rfl
  | generic => rfl

theorem IsContainer.isElement {type : FeatureType} {g : Geometry}
    {node : Node} (h : IsContainer type g node) : node.isElement = true := by
  obtain ⟨name, inner, -, rfl, -⟩ := h
  rfl

theorem IsCoverage.isElement {c : GridCoverage} {node : Node}
    (h : IsCoverage c node) : node.isElement = true := by
  obtain ⟨attributes, content, rfl, -⟩ := h
  rfl

theorem AreBoundaries.isElement {children : List CityObject}
    {nodes : List Node} (h : AreBoundaries used o children nodes) :
    ∀ node ∈ nodes, node.isElement = true := by
  induction children generalizing nodes with
  | nil =>
      cases h with
      | nil => exact List.forall_mem_nil _
  | cons child rest ih =>
      cases h with
      | cons hchild hrest => exact List.forall_mem_cons.mpr ⟨rfl, ih hrest⟩

end Elements

/-! ## What the parts become -/

/-- Whether settings declare the used namespaces, apart from the default
namespace, and no others. -/
def Settings.Declares (s : Settings) (used : Namespace → Prop) : Prop :=
  ∀ ns, ns ≠ .cityGml → (s.isDeclared ns = true ↔ used ns)

section Parts

open Fragment

variable {s : Settings} {used : Namespace → Prop} (o : Options)

theorem optionally_ite {α : Type} {wanted : Bool} {part : Option α}
    {f : α → Fragment} {sort : Node → Prop}
    (h : ∀ a, part = some a → sort ((f a).toNode s)) :
    Optionally (wanted = true ∧ part.isSome = true) sort
      (toNodes s (if wanted then part.toList.map f else [])) := by
  cases wanted with
  | false =>
      exact ⟨fun hboth => absurd hboth.1 Bool.false_ne_true, fun _ => rfl⟩
  | true =>
      cases part with
      | none =>
          exact ⟨fun hboth => absurd hboth.2 Bool.false_ne_true, fun _ => rfl⟩
      | some a =>
          exact ⟨fun _ => ⟨_, h a rfl, rfl⟩, fun hnot => absurd ⟨rfl, rfl⟩ hnot⟩

theorem optionally_singleton {condition : Prop} [Decidable condition]
    {fragment : Fragment} {sort : Node → Prop}
    (h : sort (fragment.toNode s)) :
    Optionally condition sort
      (toNodes s (if condition then [fragment] else [])) := by
  constructor
  · intro hcondition
    rw [if_pos hcondition]
    exact ⟨_, h, rfl⟩
  · intro hnot
    rw [if_neg hnot]
    rfl

theorem isNamed_toNode_prefixed {name : String} {ns : Namespace}
    {short written : String} (hshort : ns.abbreviation = some short)
    (hwritten : short ++ ":" ++ name = written)
    (hdeclared : s.isDeclared ns = true)
    (attributes : List (String × String)) (content : List Fragment) :
    ((Fragment.element name ns attributes content).toNode s).IsNamed
      written := by
  rw [toNode, Settings.prefixed hshort hwritten hdeclared]
  exact ⟨_, _, rfl⟩

/-! ### Attributes -/

section Attributes

variable (hused : s.Declares used)
include hused

theorem used_iff_of_lookup {name : String} {known : KnownAttribute}
    (h : KnownAttribute.lookup? name = some known) :
    s.isDeclared known.ns = true ↔ used known.ns :=
  hused known.ns (KnownAttribute.plain_of_mem (List.mem_of_find?_eq_some h)).2

/-- A written attribute has one element. -/
theorem exists_entryFragments (hgenerics : s.isDeclared .generics = true)
    {entry : String × AttributeValue} (h : Writes used o entry) :
    ∃ fragment, Attributes.entryFragments s.isDeclared o.genericAttributes
        entry = [fragment] ∧
      IsAttribute used entry (fragment.toNode s) := by
  obtain ⟨name, value⟩ := entry
  rw [Attributes.entryFragments]
  cases hproperty : (KnownAttribute.lookup? name).filter
      fun known => s.isDeclared known.ns with
  | some known =>
      obtain ⟨hknown, hdeclared⟩ := Option.filter_eq_some_iff.mp hproperty
      have hmem := List.mem_of_find?_eq_some hknown
      obtain ⟨short, hshort⟩ := Option.isSome_iff_exists.mp
        (Namespace.abbreviation_isSome (KnownAttribute.plain_of_mem hmem).2)
      have hname := Settings.qualify_of_isDeclared hshort hdeclared
        known.localName
      refine ⟨_, rfl, ?_⟩
      rw [textElement, toNode, hname]
      exact .property hknown ((used_iff_of_lookup hused hknown).mp hdeclared)
        hshort
  | none =>
      have hother : ∀ known, KnownAttribute.lookup? name = some known →
          ¬used known.ns := by
        intro known hknown hns
        have hdeclared := (used_iff_of_lookup hused hknown).mpr hns
        rw [hknown, Option.filter_some, if_pos hdeclared] at hproperty
        cases hproperty
      have hgeneric : o.genericAttributes = true := by
        rcases h with hgeneric | ⟨known, hknown, hns⟩
        · exact hgeneric
        · exact absurd hns (hother known hknown)
      have hcolon : "gen" ++ ":" = "gen:" := by decide
      have hname := Settings.qualify_of_isDeclared rfl hgenerics
        value.genericName
      have hvalue : s.qualify "value" .generics = "gen:value" :=
        Settings.prefixed rfl (by decide) hgenerics
      rw [hcolon] at hname
      refine ⟨_, if_pos hgeneric, ?_⟩
      rw [AttributeValue.genericFragment, toNode, hname, toNodes, toNodes,
        textElement, toNode, hvalue]
      exact .generic hother

theorem entryFragments_eq_nil {entry : String × AttributeValue}
    (h : ¬Writes used o entry) :
    Attributes.entryFragments s.isDeclared o.genericAttributes entry = [] := by
  rw [Writes, not_or, not_exists] at h
  obtain ⟨hgeneric, hproperty⟩ := h
  have hnone : (KnownAttribute.lookup? entry.1).filter
      (fun known => s.isDeclared known.ns) = none := by
    rw [Option.filter_eq_none_iff]
    intro known hknown hdeclared
    exact hproperty known
      ⟨hknown, (used_iff_of_lookup hused hknown).mp hdeclared⟩
  rw [Attributes.entryFragments, hnone]
  exact if_neg hgeneric

open Classical in
theorem forall₂_entries (hgenerics : s.isDeclared .generics = true)
    (entries : List (String × AttributeValue)) :
    List.Forall₂ (IsAttribute used)
      (entries.filter fun entry => Writes used o entry)
      (toNodes s (entries.flatMap
        (Attributes.entryFragments s.isDeclared o.genericAttributes))) := by
  induction entries with
  | nil => exact .nil
  | cons entry rest ih =>
      rw [List.flatMap_cons]
      by_cases h : Writes used o entry
      · obtain ⟨fragment, hfragment, hnode⟩ :=
          exists_entryFragments o hused hgenerics h
        rw [List.filter_cons, if_pos (decide_eq_true h), hfragment]
        exact .cons hnode ih
      · rw [List.filter_cons, if_neg (mt of_decide_eq_true h),
          entryFragments_eq_nil o hused h]
        exact ih

open Classical in
theorem areAttributes_fragments (hgenerics : s.isDeclared .generics = true)
    (attributes : Attributes) :
    AreAttributes used o attributes
      (toNodes s (attributes.fragments s.isDeclared o.genericAttributes)) := by
  refine ⟨attributes.entries.filter fun entry => Writes used o entry,
    attributes.ascending.filter _, fun entry => ?_,
    forall₂_entries o hused hgenerics attributes.entries⟩
  rw [List.mem_filter, decide_eq_true_iff]

end Attributes

/-! ### Appearances, geometries and references -/

theorem optionally_shownAppearances
    (happearance : s.isDeclared .appearance = true) (isRoot : Bool)
    (object : CityObject) :
    Optionally
      (isRoot = true ∧ o.appearances = true ∧
        ∃ b ∈ object.targets, b.isEmpty = false)
      (Node.IsNamed "app:appearance")
      (toNodes s (object.shownAppearances o isRoot).fragments) := by
  have hempty : (object.shownAppearances o isRoot).isEmpty = true ↔
      ¬(isRoot = true ∧ o.appearances = true ∧
        ∃ b ∈ object.targets, b.isEmpty = false) := by
    cases isRoot with
    | false => exact iff_of_true rfl fun h => absurd h.1 Bool.false_ne_true
    | true => simp [CityObject.isEmpty_shownAppearances_iff, imp_iff_not_or]
  rw [ThemedAppearances.fragments]
  constructor
  · intro hshown
    rw [if_neg fun h => hempty.mp h hshown]
    refine ⟨_, ?_, rfl⟩
    exact isNamed_toNode_prefixed rfl (by decide) happearance _ _
  · intro hnot
    rw [if_pos (hempty.mpr hnot)]
    rfl

theorem forall₂_containers {type : FeatureType}
    (htype : s.isDeclared type.thematicModule = true)
    (hgml : s.isDeclared .gml = true) (geometries : List Geometry) :
    List.Forall₂ (IsContainer type)
      (geometries.filter (Geometry.isWritten o type))
      (toNodes s (geometries.flatMap (Geometry.placedFragments o type))) := by
  induction geometries with
  | nil => exact .nil
  | cons g rest ih =>
      rw [List.flatMap_cons, List.filter_cons]
      by_cases h : g.isWritten o type = true
      · obtain ⟨name, hname, hplaced⟩ := Geometry.placedFragments_of_isWritten h
        have hmodule := FeatureType.thematicModule_of_container? hname
        have hbldg : "bldg" ++ ":" = "bldg:" := by decide
        have hcolon : "gml" ++ ":" = "gml:" := by decide
        rw [hmodule] at htype hplaced
        rw [if_pos h, hplaced]
        refine .cons ⟨name, g.fragment.toNode s, hname, ?_, ?_⟩ ih
        · rw [wrap, toNode, Settings.qualify_of_isDeclared rfl htype, hbldg]
          rfl
        · rw [Geometry.fragment_eq]
          exact isNamed_toNode_prefixed rfl (by rw [hcolon]) hgml _ _
      · rw [if_neg h, Geometry.placedFragments_of_not_isWritten h]
        exact ih

theorem Envelope.isDefined_iff (e : Envelope) :
    e.isDefined = true ↔ ∀ x ∈ e.bounds, x.isNaN = false := by
  simp [isDefined, Position.hasNaN, bounds, and_assoc]

theorem Envelope.isZero_iff (e : Envelope) :
    e.isZero = true ↔ ∀ x ∈ e.bounds, x.isZero = true := by
  simp [isZero, Position.isOrigin, bounds, and_assoc]

theorem isNamed_envelope (hgml : s.isDeclared .gml = true) (e : Envelope) :
    (e.fragment.toNode s).IsNamed "gml:boundedBy" :=
  isNamed_toNode_prefixed rfl (by decide) hgml _ _

theorem isCoverage_fragment (hcore : s.isDeclared .core = true)
    (hgml : s.isDeclared .gml = true) (c : GridCoverage) :
    IsCoverage c (c.fragment.toNode s) := by
  have hname : s.qualify "RectifiedGridCoverage" .core =
      "core:RectifiedGridCoverage" :=
    Settings.prefixed rfl (by decide +kernel) hcore
  rw [GridCoverage.fragment, toNode, hname]
  refine ⟨_, _, rfl, ?_⟩
  rw [← Envelope.isDefined_iff, ← Envelope.isZero_iff, Bool.not_eq_true,
    ← Bool.not_eq_true', ← Bool.and_eq_true]
  exact optionally_singleton (isNamed_envelope hgml c.envelope)

theorem optionally_addressFragments {object : CityObject}
    (h : object.needs .building = true → s.isDeclared .building = true) :
    Optionally (o.addresses = true ∧ object.address.isSome = true)
      (Node.IsNamed "bldg:address")
      (toNodes s (CityObject.addressFragments o object.address)) := by
  apply optionally_ite
  intro a ha
  have hdeclared := h (CityObject.needs_of_address ha).1
  exact isNamed_toNode_prefixed rfl (by decide) hdeclared _ _

theorem optionally_reference (hcore : s.isDeclared .core = true)
    (reference : Option ExternalReference) :
    Optionally (o.externalReferences = true ∧ reference.isSome = true)
      (Node.IsNamed "core:ExternalReference")
      (toNodes s (if o.externalReferences then
        reference.toList.map ExternalReference.fragment else [])) := by
  apply optionally_ite
  intro r _
  exact isNamed_toNode_prefixed rfl (by decide +kernel) hcore _ _

theorem optionally_coverage (hcore : s.isDeclared .core = true)
    (hgml : s.isDeclared .gml = true) (coverage : Option GridCoverage) :
    Optionally (o.externalReferences = true ∧ coverage.isSome = true)
      (fun node => ∃ c, coverage = some c ∧ IsCoverage c node)
      (toNodes s (if o.externalReferences then
        coverage.toList.map GridCoverage.fragment else [])) := by
  apply optionally_ite
  intro c hc
  exact ⟨c, hc, isCoverage_fragment hcore hgml c⟩

theorem referenceFragments_eq (reference : Option ExternalReference)
    (coverage : Option GridCoverage) :
    CityObject.referenceFragments o reference coverage =
      (if o.externalReferences then
        reference.toList.map ExternalReference.fragment else []) ++
      if o.externalReferences then
        coverage.toList.map GridCoverage.fragment else [] := by
  rw [CityObject.referenceFragments]
  split <;> rfl

/-! ### Objects -/

mutual

/-- What is written for an object is an element for it, if everything is
declared that it and the objects below it need. -/
theorem isObject_fragment (hused : s.Declares used) :
    ∀ (isRoot : Bool) (object : CityObject),
      DeclaresFor s.isDeclared object.subtree →
      IsObject used o isRoot object
        ((object.fragment s.isDeclared o isRoot).toNode s)
  | isRoot, ⟨id, type, attributes, geometries, children, address, reference,
      coverage⟩, h => by
    let object : CityObject := ⟨id, type, attributes, geometries, children,
      address, reference, coverage⟩
    have hself := h.needed object object.mem_subtree_self
    have hgml := h.always .gml (by decide)
    have hcore := h.always .core (by decide)
    have htype := hself _ object.needs_thematicModule
    have hbuilding : children ≠ [] → s.isDeclared .building = true := by
      intro hchildren
      exact hself _ (CityObject.needs_building_of_child (o := object) hchildren)
    obtain ⟨short, hshort⟩ := Option.isSome_iff_exists.mp
      (Namespace.abbreviation_isSome type.thematicModule_ne)
    have hattributes := areAttributes_fragments o hused
      (h.always .generics (by decide)) attributes
    have hshown := optionally_shownAppearances o
      (h.always .appearance (by decide)) isRoot object
    have hcontainers := forall₂_containers o htype hgml geometries
    have hboundaries :=
      areBoundaries_fragments hused children hbuilding h.below
    have haddress := optionally_addressFragments o (hself .building)
    have hreference := optionally_reference o hcore reference
    have hcoverage := optionally_coverage o hcore hgml coverage
    rw [CityObject.fragment, toNode_identified,
      Settings.qualify_of_isDeclared hshort htype, referenceFragments_eq]
    simp only [toNodes_append, ← List.append_assoc]
    refine .element hshort rfl ?_ hattributes hshown hcontainers hboundaries
      haddress hreference hcoverage
    simp only [List.forall_mem_append]
    refine ⟨⟨⟨⟨⟨⟨?_, ?_⟩, ?_⟩, ?_⟩, ?_⟩, ?_⟩, ?_⟩
    · exact hattributes.isElement
    · exact hshown.forall_mem fun _ h => h.isElement
    · exact forall_mem_of_forall₂ hcontainers fun _ _ h => h.isElement
    · exact hboundaries.isElement
    · exact haddress.forall_mem fun _ h => h.isElement
    · exact hreference.forall_mem fun _ h => h.isElement
    · refine hcoverage.forall_mem ?_
      rintro node ⟨c, -, hnode⟩
      exact hnode.isElement

theorem areBoundaries_fragments (hused : s.Declares used) :
    ∀ children : List CityObject,
      (children ≠ [] → s.isDeclared .building = true) →
      DeclaresFor s.isDeclared (CityObject.forest children) →
      AreBoundaries used o children
        (toNodes s (CityObject.childFragments s.isDeclared o children))
  | [], _, _ => .nil
  | child :: rest, hbuilding, h => by
    obtain ⟨hfirst, hrest⟩ := h.of_forest_cons
    have hdeclared := hbuilding (List.cons_ne_nil child rest)
    have hname : s.qualify "boundedBy" .building = "bldg:boundedBy" :=
      Settings.prefixed rfl (by decide) hdeclared
    rw [CityObject.childFragments, toNodes, wrap, toNode, hname]
    exact .cons (isObject_fragment hused false child hfirst)
      (areBoundaries_fragments hused rest (fun _ => hdeclared) hrest)

end

theorem isMember_memberFragment (hused : s.Declares used)
    {object : CityObject} (h : DeclaresFor s.isDeclared object.subtree) :
    IsMember used o object
      ((CityModel.memberFragment s.isDeclared o object).toNode s) := by
  have hname : s.qualify "cityObjectMember" .core = "core:cityObjectMember" :=
    Settings.prefixed rfl (by decide +kernel) (h.always .core (by decide))
  rw [CityModel.memberFragment, wrap, toNode, hname]
  exact ⟨_, rfl, isObject_fragment o hused true object h⟩

end Parts

/-! ## The document of a model -/

namespace CityModel

variable (o : Options) (m : CityModel)

theorem declares_settings :
    (m.settings o).Declares (Namespace.IsUsedBy · m.objects) := by
  intro ns h
  change _ ↔ ns.IsUsedBy m.objects
  rw [isDeclared_settings o m h, Namespace.isUsedBy_iff,
    NamespaceUsage.contains_collect]

theorem optionally_extent {s : Settings} (hgml : s.isDeclared .gml = true) :
    Optionally (∀ x ∈ m.envelope.bounds, x.isNaN = false)
      (Node.IsNamed "gml:boundedBy")
      (Fragment.toNodes s
        (if m.envelope.isDefined then [m.envelope.fragment] else [])) := by
  rw [← Envelope.isDefined_iff]
  exact optionally_singleton (isNamed_envelope hgml m.envelope)

theorem isDocument_encodedRoot : IsDocument o m (m.encodedRoot o) where
  name := Settings.qualify_cityGml (m.settings o) "CityModel"
  content := by
    have hused := m.declares_settings o
    have hdeclares := m.declaresFor_settings o
    have hattributes := areAttributes_fragments o hused
      (hdeclares.always .generics (by decide)) m.attributes
    have hextent := m.optionally_extent (hdeclares.always .gml (by decide))
    have hmembers : List.Forall₂
        (IsMember (Namespace.IsUsedBy · m.objects) o) m.objects
        (Fragment.toNodes (m.settings o)
          (m.objects.map (memberFragment (m.settings o).isDeclared o))) := by
      apply Fragment.forall₂_toNodes_map
      intro object hobject
      apply isMember_memberFragment o hused
      exact hdeclares.mono (CityObject.subtree_subset_forest hobject)
    refine ⟨_, _, _, ?_, hattributes, hextent, hmembers⟩
    rw [← Fragment.toNodes_append, ← Fragment.toNodes_append]
    rfl

end CityModel

/-- The document of an encoded model follows the grammar. -/
theorem Writer.encode_isDocument (w : Writer) (m : CityModel)
    (h : w.options.validate = .ok ()) :
    ∃ root, ((encode m).run w).state.builder.stack = [root] ∧
      IsDocument w.options m root := by
  refine ⟨m.encodedRoot w.options, ?_, m.isDocument_encodedRoot w.options⟩
  rw [run_encode_ok h]
  rfl

/-- A park is all that stands in its document. -/
theorem Writer.encode_isDocument_park :
    ∃ root member, ((encode .park).run (.new .standard)).state.builder.stack =
        [root] ∧
      root.children = [member] ∧
      List.Forall₂
        (IsMember (Namespace.IsUsedBy · CityModel.park.objects) .standard)
        CityModel.park.objects [member] := by
  obtain ⟨root, hstack, hdocument⟩ :=
    encode_isDocument (.new .standard) .park Options.validate_standard
  obtain ⟨attributes, extent, members, hchildren,
    ⟨written, -, hwritten, hattributes⟩, hextent, hmembers⟩ :=
    hdocument.content
  have hnone : written = [] := by
    rw [List.eq_nil_iff_forall_not_mem]
    intro entry hentry
    exact List.not_mem_nil ((hwritten entry).mp hentry).1
  subst hnone
  cases hattributes
  rw [hextent.2 (by decide)] at hchildren
  obtain ⟨member, rest, hmember, hrest, rfl⟩ :=
    List.forall₂_cons_left_iff.mp hmembers
  rw [List.forall₂_nil_left_iff] at hrest
  subst hrest
  exact ⟨root, member, hstack, hchildren, hmembers⟩

end CityMarkup
