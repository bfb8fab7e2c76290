import CityMarkup.Proofs.Encoding.Outline

/-!
# Recovering the objects of a model

From the text of a model the outlines of its objects are recovered, in their
order and with their nesting, in every layout and under all options.  Only the
elements for the objects below an object are wrapped as its boundaries, and
only the root objects are wrapped as members.
-/

namespace CityMarkup

open Markup Outline

/-! ## What is not a wrapper -/

namespace Fragment

/-- Whether the fragment is no element with the given name. -/
def Avoids (name : String) (ns : Namespace) : Fragment → Prop
  | .text _ => True
  | .element found other _ _ => ¬(found = name ∧ other = ns)

/-- Whether none of the fragments is an element with the given name. -/
def AllAvoid (name : String) (ns : Namespace) (fragments : List Fragment) :
    Prop :=
  ∀ fragment ∈ fragments, fragment.Avoids name ns

variable {name : String} {ns : Namespace}

theorem AllAvoid.append {first second : List Fragment}
    (hfirst : AllAvoid name ns first) (hsecond : AllAvoid name ns second) :
    AllAvoid name ns (first ++ second) := by
  intro fragment hmem
  rcases List.mem_append.mp hmem with h | h
  · exact hfirst fragment h
  · exact hsecond fragment h

/-- A sound request for an element with another name or of another namespace
is written under another name. -/
theorem qualify_ne_of_isSound {s : Settings} {r : Request} {short : String}
    (hsound : r.IsSound s.isDeclared) (hshort : ns.abbreviation = some short)
    (hne : ¬(r.name = name ∧ r.ns = ns)) :
    s.qualify r.name r.ns ≠ short ++ ":" ++ name := by
  intro heq
  have hcovered := hsound.covered
  by_cases hdefault : r.ns = .cityGml
  · rw [if_pos hdefault] at hcovered
    have key : ∀ name ∈ Request.defaultNames, ':' ∉ name.toList := by
      decide
    apply key r.name hcovered
    rw [hdefault, Settings.qualify_cityGml] at heq
    rw [heq, toList_prefixed]
    simp
  · rw [if_neg hdefault] at hcovered
    obtain ⟨short', hshort'⟩ := Option.isSome_iff_exists.mp
      (Namespace.abbreviation_isSome hdefault)
    rw [Settings.qualify_of_isDeclared hshort' hcovered] at heq
    obtain ⟨hns, hname⟩ := eq_of_prefixed_eq hshort' hshort heq
    exact hne ⟨hname, hns⟩

end Fragment

namespace Outline

theorem wrapped?_append {wrapper : String} {first second : List Node}
    {xs ys : List Outline} (hfirst : wrapped? wrapper first = some xs)
    (hsecond : wrapped? wrapper second = some ys) :
    wrapped? wrapper (first ++ second) = some (xs ++ ys) := by
  induction first generalizing xs with
  | nil =>
      cases hfirst
      exact hsecond
  | cons node rest ih =>
      obtain ⟨name, attributes, content⟩ | value := node
      · by_cases hname : name = wrapper
        · subst hname
          rcases content with _ | ⟨object, _ | ⟨other, more⟩⟩
          · rw [wrapped?, if_pos rfl] at hfirst
            · cases hfirst
            · intro object h
              cases h
          · rw [wrapped?_self] at hfirst
            obtain ⟨x, hx, hrest⟩ := Option.bind_eq_some_iff.mp hfirst
            obtain ⟨others, hothers, rfl⟩ := Option.map_eq_some_iff.mp hrest
            rw [List.cons_append, wrapped?_self, hx, ih hothers]
            rfl
          · rw [wrapped?, if_pos rfl] at hfirst
            · cases hfirst
            · intro object h
              cases h
        · rw [wrapped?_of_ne hname] at hfirst
          rw [List.cons_append, wrapped?_of_ne hname]
          exact ih hfirst
      · rw [wrapped?] at hfirst
        rw [List.cons_append, wrapped?]
        exact ih hfirst

/-- Nothing is found among elements with other names. -/
theorem wrapped?_of_allAvoid {s : Settings} {wrapper name short : String}
    {ns : Namespace} (hshort : ns.abbreviation = some short)
    (hwrapper : short ++ ":" ++ name = wrapper) {fragments : List Fragment}
    (hsound : Fragment.AllSound s.isDeclared fragments)
    (havoid : Fragment.AllAvoid name ns fragments) :
    wrapped? wrapper (Node.bareAll (Fragment.toNodes s fragments)) =
      some [] := by
  induction fragments with
  | nil => rfl
  | cons fragment rest ih =>
      obtain ⟨hfirst, hsound'⟩ := List.forall_mem_cons.mp hsound
      obtain ⟨hother, havoid'⟩ := List.forall_mem_cons.mp havoid
      have hrest := ih hsound' havoid'
      obtain ⟨found, other, attributes, content⟩ | value := fragment
      · have hrequest : Request.IsSound s.isDeclared
            ⟨found, other, attributes⟩ := by
          apply hfirst
          rw [Fragment.requests]
          exact List.mem_cons_self
        have hne := Fragment.qualify_ne_of_isSound hrequest hshort hother
        rw [hwrapper] at hne
        rw [Fragment.toNodes, Fragment.toNode, Node.bareAll_cons,
          Node.bareAll_element, List.singleton_append, wrapped?_of_ne hne]
        exact hrest
      · rw [Fragment.toNodes, Fragment.toNode, Node.bareAll]
        exact hrest

end Outline

namespace Outline

/-- The object in a wrapper is found. -/
theorem wrapped?_wrap {s : Settings} {wrapper name : String} {ns : Namespace}
    (hname : s.qualify name ns = wrapper) {object : Fragment} {x : Outline}
    (helement : (object.toNode s).isElement = true)
    (hobject : ofNode? (object.toNode s).bare = some x)
    {rest : List Fragment} {xs : List Outline}
    (hrest : wrapped? wrapper (Node.bareAll (Fragment.toNodes s rest)) =
      some xs) :
    wrapped? wrapper (Node.bareAll
      (Fragment.toNodes s (.wrap name ns [object] :: rest))) =
      some (x :: xs) := by
  have hcontent : Node.bareAll (Fragment.toNodes s [object]) =
      [(object.toNode s).bare] := by
    rw [Fragment.toNodes, Fragment.toNodes, Node.bareAll, if_pos helement]
    rfl
  rw [Fragment.toNodes, Fragment.wrap, Fragment.toNode, Node.bareAll_cons,
    Node.bareAll_element, hcontent, hname, List.singleton_append,
    wrapped?_self, hobject, hrest]
  rfl

end Outline

/-! ## The content of objects -/

namespace Fragment

variable {name : String} {ns : Namespace}

theorem avoids_of_ns {found : String} {other : Namespace} (h : other ≠ ns)
    (attributes : List (String × String)) (content : List Fragment) :
    Avoids name ns (.element found other attributes content) := by
  rintro ⟨-, hns⟩
  exact h hns

theorem avoids_of_name {found : String} {other : Namespace}
    (h : found ≠ name) (attributes : List (String × String))
    (content : List Fragment) :
    Avoids name ns (.element found other attributes content) := by
  rintro ⟨hname, -⟩
  exact h hname

theorem allAvoid_attributes {declared : Namespace → Bool}
    (hname : ∀ known ∈ KnownAttribute.all, known.localName ≠ name)
    (hns : .generics ≠ ns) (attributes : Attributes) (generic : Bool) :
    AllAvoid name ns (attributes.fragments declared generic) := by
  intro fragment hmem
  obtain ⟨entry, -, hentry⟩ := List.mem_flatMap.mp hmem
  rw [Attributes.entryFragments] at hentry
  split at hentry
  · rename_i known hknown
    obtain ⟨hfound, -⟩ := Option.filter_eq_some_iff.mp hknown
    rw [List.mem_singleton.mp hentry]
    exact avoids_of_name (hname known (List.mem_of_find?_eq_some hfound)) _ _
  · cases generic with
    | false => cases hentry
    | true =>
        rw [if_pos rfl] at hentry
        rw [List.mem_singleton.mp hentry]
        exact avoids_of_ns hns _ _

theorem allAvoid_boundary_appearances (t : ThemedAppearances) :
    AllAvoid "boundedBy" .building t.fragments := by
  intro fragment hmem
  rw [ThemedAppearances.fragments] at hmem
  split at hmem
  · cases hmem
  · rw [List.mem_singleton.mp hmem]
    exact avoids_of_ns (by decide) _ _

theorem allAvoid_boundary_geometries (o : Options) (type : FeatureType)
    (geometries : List Geometry) :
    AllAvoid "boundedBy" .building
      (geometries.flatMap (Geometry.placedFragments o type)) := by
  have hcontainer : ∀ name ∈ FeatureType.containerNames,
      name ≠ "boundedBy" := by
    decide
  intro fragment hmem
  obtain ⟨g, -, hg⟩ := List.mem_flatMap.mp hmem
  rw [Geometry.placedFragments] at hg
  split at hg
  · rename_i container hplacement
    rw [List.mem_singleton.mp hg]
    exact avoids_of_name
      (hcontainer container (Geometry.mem_containerNames hplacement)) _ _
  · cases hg
  · cases hg

theorem allAvoid_boundary_address (o : Options) (address : Option Address) :
    AllAvoid "boundedBy" .building
      (CityObject.addressFragments o address) := by
  intro fragment hmem
  rw [CityObject.addressFragments] at hmem
  split at hmem
  · obtain ⟨a, -, rfl⟩ := List.mem_map.mp hmem
    exact avoids_of_name (by decide) _ _
  · cases hmem

theorem allAvoid_boundary_references (o : Options)
    (reference : Option ExternalReference) (coverage : Option GridCoverage) :
    AllAvoid "boundedBy" .building
      (CityObject.referenceFragments o reference coverage) := by
  intro fragment hmem
  rw [CityObject.referenceFragments] at hmem
  split at hmem
  · rcases List.mem_append.mp hmem with h | h
    · obtain ⟨r, -, rfl⟩ := List.mem_map.mp h
      exact avoids_of_ns (by decide) _ _
    · obtain ⟨c, -, rfl⟩ := List.mem_map.mp h
      exact avoids_of_ns (by decide) _ _
  · cases hmem

end Fragment

/-! ## Objects -/

theorem FeatureType.ofElementName?_elementName (type : FeatureType) :
    ofElementName? type.elementName = some type := by
  have key : ∀ type ∈ all, ofElementName? type.elementName = some type := by
    decide +kernel
  exact key type (mem_all type)

theorem Fragment.lookup_identity (id : String) :
    ((identity id).foldl (fun l a => setAttribute a.1 a.2 l) []).lookup
      "gml:id" = if id.isEmpty then none else some id := by
  rw [identity]
  split
  · rfl
  · exact List.lookup_cons_self

namespace CityObject

theorem boundary_name : "bldg" ++ ":" ++ "boundedBy" = "bldg:boundedBy" := by
  decide

theorem member_name :
    "core" ++ ":" ++ "cityObjectMember" = "core:cityObjectMember" := by
  decide +kernel

variable (s : Settings) (o : Options)

theorem isElement_fragment (isRoot : Bool) (object : CityObject) :
    ((object.fragment s.isDeclared o isRoot).toNode s).isElement = true := by
  cases object
  rfl

/-- The name that an object is written under is that of its type. -/
theorem ofElementName?_qualify {s : Settings} {type : FeatureType}
    (h : s.isDeclared type.thematicModule = true) :
    FeatureType.ofElementName?
      (localName (s.qualify type.elementName type.thematicModule)) =
      some type := by
  obtain ⟨short, hshort⟩ := Option.isSome_iff_exists.mp
    (Namespace.abbreviation_isSome type.thematicModule_ne)
  rw [Settings.qualify_of_isDeclared hshort h,
    localName_prefixed (Namespace.colon_notMem_abbreviation hshort)]
  exact type.ofElementName?_elementName

/-- In the content of an object, only the objects below it are wrapped as its
boundaries. -/
theorem wrapped?_content (isRoot : Bool) (object : CityObject)
    {content : List Fragment} {xs : List Outline}
    (hcontent : content =
      object.attributes.fragments s.isDeclared o.genericAttributes ++
        (object.shownAppearances o isRoot).fragments ++
        object.geometries.flatMap (Geometry.placedFragments o object.type) ++
        childFragments s.isDeclared o object.children ++
        addressFragments o object.address ++
        referenceFragments o object.externalReference object.coverage)
    (hsound : Fragment.AllSound s.isDeclared content)
    (hbelow : wrapped? "bldg:boundedBy" (Node.bareAll
      (Fragment.toNodes s (childFragments s.isDeclared o object.children))) =
      some xs) :
    wrapped? "bldg:boundedBy" (Node.bareAll (Fragment.toNodes s content)) =
      some xs := by
  subst hcontent
  simp only [Fragment.allSound_append] at hsound
  obtain ⟨⟨⟨⟨⟨hattributes, happearances⟩, hgeometries⟩, -⟩, haddress⟩,
    hreferences⟩ := hsound
  have hnone : ∀ {fragments : List Fragment},
      Fragment.AllSound s.isDeclared fragments →
      Fragment.AllAvoid "boundedBy" .building fragments →
      wrapped? "bldg:boundedBy"
        (Node.bareAll (Fragment.toNodes s fragments)) = some [] := by
    intro fragments hsound havoid
    exact wrapped?_of_allAvoid rfl boundary_name hsound havoid
  have hfirst := hnone hattributes (Fragment.allAvoid_attributes
    (by decide +kernel) (by decide) object.attributes o.genericAttributes)
  have hsecond := hnone happearances
    (Fragment.allAvoid_boundary_appearances _)
  have hthird := hnone hgeometries
    (Fragment.allAvoid_boundary_geometries o object.type object.geometries)
  have hfifth := hnone haddress
    (Fragment.allAvoid_boundary_address o object.address)
  have hsixth := hnone hreferences (Fragment.allAvoid_boundary_references o
    object.externalReference object.coverage)
  have hbefore := wrapped?_append (wrapped?_append hfirst hsecond) hthird
  have hread := wrapped?_append (wrapped?_append
    (wrapped?_append hbefore hbelow) hfifth) hsixth
  simpa only [Fragment.toNodes_append, Node.bareAll_append, List.nil_append,
    List.append_nil] using hread

mutual

/-- The element for an object is read back as the outline of the object. -/
theorem ofNode?_fragment :
    ∀ (isRoot : Bool) (object : CityObject),
      DeclaresFor s.isDeclared object.subtree →
      ofNode? ((object.fragment s.isDeclared o isRoot).toNode s).bare =
        some object.outline
  | isRoot, ⟨id, type, attributes, geometries, children, address, reference,
      coverage⟩, h => by
    let object : CityObject := ⟨id, type, attributes, geometries, children,
      address, reference, coverage⟩
    have hsound := (isSound_fragment o isRoot object h).content
    have hself : object ∈ object.subtree := mem_subtree_self object
    have hbelow : wrapped? "bldg:boundedBy" (Node.bareAll
        (Fragment.toNodes s (childFragments s.isDeclared o children))) =
        some (outlines children) := by
      apply wrapped?_childFragments children _ h.below
      intro hchildren
      exact h.needed object hself .building
        (needs_building_of_child hchildren)
    have hcontent := wrapped?_content s o isRoot object rfl hsound hbelow
    have htype := ofElementName?_qualify
      (h.needed object hself _ object.needs_thematicModule)
    rw [fragment, Fragment.toNode, Node.bare, ofNode?, htype,
      Option.bind_some, Fragment.lookup_identity, outline]
    exact congrArg (Option.map _) hcontent

/-- The objects below an object are found in their wrappers. -/
theorem wrapped?_childFragments :
    ∀ children : List CityObject,
      (children ≠ [] → s.isDeclared .building = true) →
      DeclaresFor s.isDeclared (forest children) →
      wrapped? "bldg:boundedBy" (Node.bareAll (Fragment.toNodes s
        (childFragments s.isDeclared o children))) =
        some (outlines children)
  | [], _, _ => by
    rw [childFragments]
    rfl
  | child :: rest, hbuilding, h => by
    obtain ⟨hfirst, hrest⟩ := h.of_forest_cons
    have hdeclared := hbuilding (List.cons_ne_nil child rest)
    have hname : s.qualify "boundedBy" .building = "bldg:boundedBy" := by
      rw [← boundary_name]
      exact Settings.qualify_of_isDeclared rfl hdeclared "boundedBy"
    have hchild := ofNode?_fragment false child hfirst
    have hothers := wrapped?_childFragments rest (fun _ => hdeclared) hrest
    rw [childFragments, outlines]
    exact wrapped?_wrap hname (isElement_fragment s o false child) hchild
      hothers

end

end CityObject

/-! ## Models -/

namespace CityModel

theorem wrapped?_members (o : Options) (m : CityModel)
    {objects : List CityObject} (hsub : ∀ object ∈ objects,
      object ∈ m.objects) :
    wrapped? "core:cityObjectMember" (Node.bareAll
      (Fragment.toNodes (m.settings o) (objects.map
        (memberFragment (m.settings o).isDeclared o)))) =
      some (objects.map CityObject.outline) := by
  have hdeclares := declaresFor_settings o m
  have hname : (m.settings o).qualify "cityObjectMember" .core =
      "core:cityObjectMember" := by
    rw [← CityObject.member_name]
    exact Settings.qualify_of_isDeclared rfl
      (hdeclares.always .core (by decide)) "cityObjectMember"
  induction objects with
  | nil => rfl
  | cons object rest ih =>
      have hobject := hdeclares.mono
        (CityObject.subtree_subset_forest (hsub object List.mem_cons_self))
      have hrest := ih fun other hother =>
        hsub other (List.mem_cons_of_mem object hother)
      exact wrapped?_wrap hname
        (CityObject.isElement_fragment (m.settings o) o true object)
        (CityObject.ofNode?_fragment (m.settings o) o true object hobject)
        hrest

/-- The outlines of the objects are read back from the text of a model. -/
theorem ofText?_document {o : Options} (h : o.validate = .ok ())
    (m : CityModel) :
    ofText? (m.document o) = some (m.objects.map CityObject.outline) := by
  have hcore : Namespace.core.abbreviation = some "core" := rfl
  have htree := Reader.elementTree?_renderDocument (m.settings o).layout
    (o.greater_notMem_encoding h) rfl (m.isPlain_encodedRoot o)
  have hsound := allSound_fragments o m
  let before := m.attributes.fragments (m.settings o).isDeclared
      o.genericAttributes ++
    if m.envelope.isDefined then [m.envelope.fragment] else []
  have hbefore : wrapped? "core:cityObjectMember"
      (Node.bareAll (Fragment.toNodes (m.settings o) before)) = some [] := by
    apply wrapped?_of_allAvoid hcore CityObject.member_name
    · intro f hf
      apply hsound
      rw [fragments]
      exact List.mem_append_left _ hf
    · apply Fragment.AllAvoid.append
      · exact Fragment.allAvoid_attributes (by decide +kernel) (by decide)
          m.attributes o.genericAttributes
      · intro f hf
        split at hf
        · rw [List.mem_singleton.mp hf]
          exact Fragment.avoids_of_ns (by decide) _ _
        · cases hf
  have hmembers := wrapped?_members o m fun object hobject => hobject
  have hcontent := wrapped?_append hbefore hmembers
  rw [List.nil_append, ← Node.bareAll_append, ← Fragment.toNodes_append]
    at hcontent
  rw [ofText?, document_eq, htree, Option.bind_some]
  exact hcontent

theorem run_toText {o : Options} (h : o.validate = .ok ()) (m : CityModel) :
    (m.toText o).result = .ok (String.ofList (m.document o)) := by
  let w : Writer := .new o
  have hvalid : w.options.validate = .ok () := h
  have hencode := Writer.run_encode_ok hvalid m
  have hresult : ((Writer.encode m).run w).result = .ok () := by
    rw [hencode]
  have hrender := Writer.run_renderText hresult
  rw [Writer.state_encode hresult] at hrender
  have hrun : m.toText o = ⟨.ok (String.ofList (m.document o)), _, _⟩ :=
    Action.run_bind_noted hencode hrender
  rw [hrun]

/-- Reading the text of a model gives back its objects: the types and the
identifiers, in order and at the right places, and as many as there are. -/
theorem ofText?_toText (o : Options) (m : CityModel)
    (h : o.validate = .ok ()) :
    ∃ (text : String) (outlines : List Outline),
      (m.toText o).result = .ok text ∧
        ofText? text.toList = some outlines ∧
        outlines = m.objects.map CityObject.outline ∧
        Outline.countAll outlines = m.objectCount := by
  refine ⟨_, _, run_toText h m, ?_, rfl, ?_⟩
  · rw [String.toList_ofList]
    exact ofText?_document h m
  · rw [← CityObject.outlines_eq_map, CityObject.countAll_outlines]
    rfl

theorem ofText?_toText_park :
    ∃ text : String, (park.toText .standard).result = .ok text ∧
      ofText? text.toList =
        some [⟨.landUse, some "park", [⟨.wallSurface, some "wall", []⟩]⟩] := by
  obtain ⟨text, outlines, htext, hread, houtlines, -⟩ :=
    ofText?_toText .standard park Options.validate_standard
  refine ⟨text, htext, ?_⟩
  rw [hread, houtlines]
  rfl

end CityModel

end CityMarkup
