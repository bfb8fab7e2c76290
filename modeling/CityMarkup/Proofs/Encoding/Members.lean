import CityMarkup.Proofs.Encoding.Nodes
import CityMarkup.Proofs.Encoding.Recovery
import CityMarkup.Proofs.Namespaces.Exactness

/-!
# Members on their own

The member of a document for an object is made from the object, the options and
the declared namespaces, and from nothing else.  Documents that declare the same
namespaces hence hold the same member for the same object, whatever else they
are about.  All that declarations depend on is which objects there are.  So in
another order of the objects the members are in that order, and everything
before them is the same.
-/

namespace CityMarkup

/-! ## Declared namespaces -/

/-- A set of namespaces is told by what belongs to it. -/
theorem NamespaceSet.ext_contains {s t : NamespaceSet}
    (h : ∀ ns, s.contains ns = t.contains ns) : s = t := by
  have hmembers : s.members = t.members := by
    rw [s.members_eq_filter, t.members_eq_filter, funext h]
  obtain ⟨members, ordered⟩ := s
  subst hmembers
  rfl

/-- Objects in another order ask for the same namespaces and schemas. -/
theorem NamespaceUsage.collect_of_reordered {m m' : CityModel}
    (h : Reordered m.objects m'.objects) : collect m' = collect m := by
  have hnamespaces : (collect m').namespaces = (collect m).namespaces := by
    apply NamespaceSet.ext_contains
    intro ns
    rw [Bool.eq_iff_iff, ← ns.isUsedBy_iff, ← ns.isUsedBy_iff,
      h.isUsedBy_iff]
  have hschemas : (collect m').schemaLocations =
      (collect m).schemaLocations := by
    apply NamespaceSet.ext_contains
    intro ns
    rw [Bool.eq_iff_iff, ← ns.hasSchemaFor_iff, ← ns.hasSchemaFor_iff,
      h.hasSchemaFor_iff]
  calc collect m'
      = ⟨(collect m').namespaces, (collect m').schemaLocations⟩ := rfl
    _ = ⟨(collect m).namespaces, (collect m).schemaLocations⟩ := by
        rw [hnamespaces, hschemas]
    _ = collect m := rfl

namespace CityModel

theorem settings_congr {m m' : CityModel}
    (h : NamespaceUsage.collect m' = NamespaceUsage.collect m) (o : Options) :
    m'.settings o = m.settings o := by
  rw [settings, settings, h]

theorem namespaces_settings_congr {m m' : CityModel}
    (h : (NamespaceUsage.collect m').namespaces =
      (NamespaceUsage.collect m).namespaces) (o : Options) :
    (m'.settings o).namespaces = (m.settings o).namespaces := by
  rw [settings, settings, NamespaceUsage.declarations,
    NamespaceUsage.declarations, h]

end CityModel

/-! ## Members and heading -/

/-- Whether a node is a member of a document. -/
def Node.isMember (node : Node) : Bool :=
  node.isNamed "core:cityObjectMember"

namespace OpenElement

/-- The members in an element, in their order. -/
def members (e : OpenElement) : List Node :=
  e.children.filter Node.isMember

/-- Everything in an element that is no member. -/
def heading (e : OpenElement) : List Node :=
  e.children.filter fun node => !node.isMember

/-- Whether an element ends with one member for each of some objects, which is
given by a function of the object. -/
structure HoldsMembers (e : OpenElement) (member : CityObject → Node)
    (objects : List CityObject) : Prop where
  last : e.children = e.heading ++ e.members
  each : e.members = objects.map member

theorem filter_of_split {e : OpenElement} {before after : List Node}
    (h : e.children = before ++ after)
    (hbefore : ∀ node ∈ before, node.isMember = false)
    (hafter : ∀ node ∈ after, node.isMember = true) :
    e.heading = before ∧ e.members = after := by
  rw [heading, members, h, List.filter_append, List.filter_append]
  constructor
  · have hall : ∀ node ∈ before, (!node.isMember) = true := by
      intro node hnode
      rw [hbefore node hnode, Bool.not_false]
    have hnone : ∀ node ∈ after, ¬(!node.isMember) = true := by
      intro node hnode
      rw [hafter node hnode, Bool.not_true]
      exact Bool.false_ne_true
    rw [List.filter_eq_self.mpr hall, List.filter_eq_nil_iff.mpr hnone,
      List.append_nil]
  · have hnone : ∀ node ∈ before, ¬node.isMember = true := by
      intro node hnode
      rw [hbefore node hnode]
      exact Bool.false_ne_true
    rw [List.filter_eq_nil_iff.mpr hnone, List.filter_eq_self.mpr hafter,
      List.nil_append]

end OpenElement

/-- What is written for a fragment with another name is no member. -/
theorem Fragment.isMember_toNode_of_avoids {s : Settings} {fragment : Fragment}
    (hsound : fragment.IsSound s.isDeclared)
    (havoid : fragment.Avoids "cityObjectMember" .core) :
    (fragment.toNode s).isMember = false := by
  cases fragment with
  | text value => rfl
  | element name ns attributes content =>
      have hrequest : Request.IsSound s.isDeclared ⟨name, ns, attributes⟩ := by
        apply hsound
        rw [requests]
        exact List.mem_cons_self
      have hne := qualify_ne_of_isSound hrequest rfl havoid
      rw [CityObject.member_name] at hne
      rw [toNode, Node.isMember, Node.isNamed]
      exact beq_false_of_ne hne

namespace CityModel

/-- What stands before the members of a document: the attributes of the model
and its extent. -/
def headingFragments (declared : Namespace → Bool) (o : Options)
    (m : CityModel) : List Fragment :=
  Attributes.fragments m.attributes declared o.genericAttributes ++
    if m.envelope.isDefined then [m.envelope.fragment] else []

theorem fragments_eq_append (declared : Namespace → Bool) (o : Options)
    (m : CityModel) :
    m.fragments declared o = m.headingFragments declared o ++
      m.objects.map (memberFragment declared o) := rfl

theorem allAvoid_headingFragments (declared : Namespace → Bool) (o : Options)
    (m : CityModel) : Fragment.AllAvoid "cityObjectMember" .core
      (m.headingFragments declared o) := by
  apply Fragment.AllAvoid.append
  · exact Fragment.allAvoid_attributes (by decide +kernel) (by decide)
      m.attributes o.genericAttributes
  · intro fragment hfragment
    split at hfragment
    · rw [List.mem_singleton.mp hfragment]
      exact Fragment.avoids_of_ns (by decide) _ _
    · cases hfragment

/-- The member for an object under some settings. -/
def member (s : Settings) (o : Options) (object : CityObject) : Node :=
  (memberFragment s.isDeclared o object).toNode s

/-- Of the settings only the declared namespaces matter. -/
theorem member_congr {s t : Settings} (h : s.namespaces = t.namespaces)
    (o : Options) : member s o = member t o := by
  have hdeclared : s.isDeclared = t.isDeclared := by
    funext ns
    rw [Settings.isDeclared, Settings.isDeclared, h]
  funext object
  rw [member, member, hdeclared, Fragment.toNode_congr h]

theorem isMember_member (o : Options) (m : CityModel) (object : CityObject) :
    (member (m.settings o) o object).isMember = true := by
  have hdeclared :=
    (m.declaresFor_settings o).always .core (by decide)
  have hname := Settings.qualify_of_isDeclared rfl hdeclared
    "cityObjectMember"
  rw [CityObject.member_name] at hname
  rw [member, memberFragment, Fragment.wrap, Fragment.toNode, hname]
  exact beq_self_eq_true "core:cityObjectMember"

variable (o : Options) (m : CityModel)

theorem children_encodedRoot :
    (m.encodedRoot o).children =
      Fragment.toNodes (m.settings o)
          (m.headingFragments (m.settings o).isDeclared o) ++
        m.objects.map (member (m.settings o) o) := by
  rw [encodedRoot, documentElement, fragments_eq_append,
    Fragment.toNodes_append, Fragment.toNodes_eq_map _ (m.objects.map _),
    List.map_map]
  rfl

theorem split_encodedRoot :
    (m.encodedRoot o).heading = Fragment.toNodes (m.settings o)
        (m.headingFragments (m.settings o).isDeclared o) ∧
      (m.encodedRoot o).members = m.objects.map (member (m.settings o) o) := by
  apply OpenElement.filter_of_split (m.children_encodedRoot o)
  · rw [Fragment.toNodes_eq_map, List.forall_mem_map]
    intro fragment hfragment
    apply Fragment.isMember_toNode_of_avoids
    · apply allSound_fragments o m
      rw [fragments_eq_append]
      exact List.mem_append_left _ hfragment
    · exact allAvoid_headingFragments _ o m fragment hfragment
  · rw [List.forall_mem_map]
    exact fun object _ => isMember_member o m object

theorem holdsMembers_encodedRoot :
    (m.encodedRoot o).HoldsMembers (member (m.settings o) o) m.objects := by
  obtain ⟨hheading, hmembers⟩ := m.split_encodedRoot o
  refine ⟨?_, hmembers⟩
  rw [hheading, hmembers, children_encodedRoot]

/-- The objects have an influence on what stands before the members by their
declarations only. -/
theorem encodedRoot_objects {objects : List CityObject}
    (h : NamespaceUsage.collect { m with objects } =
      NamespaceUsage.collect m) :
    ({ m with objects }.encodedRoot o).name = (m.encodedRoot o).name ∧
      ({ m with objects }.encodedRoot o).attributes =
        (m.encodedRoot o).attributes ∧
      ({ m with objects }.encodedRoot o).heading =
        (m.encodedRoot o).heading := by
  have hsettings := settings_congr h o
  have hroot : { m with objects }.encodedRoot o =
      { m with objects }.documentElement (m.settings o) o := by
    rw [encodedRoot, hsettings]
  obtain ⟨hheading, -⟩ := m.split_encodedRoot o
  obtain ⟨hheading', -⟩ := { m with objects }.split_encodedRoot o
  refine ⟨(congrArg OpenElement.name hroot).trans rfl,
    (congrArg OpenElement.attributes hroot).trans rfl, ?_⟩
  rw [hheading, hheading', hsettings]
  rfl

end CityModel

/-- A document ends with one member for each object.  The same function gives
the members in all documents with these options that declare the same
namespaces, whatever the models are and whatever was encoded before.  With the
same objects in another order the members are in that order, and the document
element and everything before the members is the same. -/
theorem Writer.encode_holdsMembers (w : Writer) (m : CityModel)
    (h : w.options.validate = .ok ()) :
    ∃ root member, ((encode m).run w).state.builder.stack = [root] ∧
      root.HoldsMembers member m.objects ∧
      (∀ (w' : Writer) (m' : CityModel), w'.options = w.options →
        (NamespaceUsage.collect m').namespaces =
          (NamespaceUsage.collect m).namespaces →
        ∃ root', ((encode m').run w').state.builder.stack = [root'] ∧
          root'.HoldsMembers member m'.objects) ∧
      ∀ (w' : Writer) (objects : List CityObject), w'.options = w.options →
        objects.Perm m.objects →
        ∃ root', ((encode { m with objects }).run w').state.builder.stack =
            [root'] ∧
          root'.name = root.name ∧ root'.attributes = root.attributes ∧
          root'.heading = root.heading ∧
          root'.HoldsMembers member objects := by
  have hstack : ∀ (w' : Writer) (m' : CityModel), w'.options = w.options →
      ((encode m').run w').state.builder.stack =
        [m'.encodedRoot w.options] := by
    intro w' m' hoptions
    rw [← hoptions] at h
    rw [run_encode_ok h, hoptions]
    rfl
  have hholds : ∀ m' : CityModel,
      (NamespaceUsage.collect m').namespaces =
        (NamespaceUsage.collect m).namespaces →
      (m'.encodedRoot w.options).HoldsMembers
        (CityModel.member (m.settings w.options) w.options) m'.objects := by
    intro m' hnamespaces
    rw [← CityModel.member_congr
      (CityModel.namespaces_settings_congr hnamespaces w.options)]
    exact m'.holdsMembers_encodedRoot w.options
  refine ⟨m.encodedRoot w.options, _, hstack w m rfl, hholds m rfl, ?_, ?_⟩
  · intro w' m' hoptions hnamespaces
    exact ⟨_, hstack w' m' hoptions, hholds m' hnamespaces⟩
  · intro w' objects hoptions hperm
    have hcollect : NamespaceUsage.collect { m with objects } =
        NamespaceUsage.collect m :=
      NamespaceUsage.collect_of_reordered (.siblings hperm.symm)
    obtain ⟨hname, hattributes, hheading⟩ :=
      m.encodedRoot_objects w.options hcollect
    exact ⟨_, hstack w' _ hoptions, hname, hattributes, hheading,
      hholds { m with objects } (congrArg _ hcollect)⟩

/-- Two parks next to each other are written as one park is, twice. -/
theorem Writer.encode_holdsMembers_parks :
    ∃ root root' : OpenElement,
      ((encode .park).run (.new .standard)).state.builder.stack = [root] ∧
      ((encode { CityModel.park with
        objects := CityModel.park.objects ++ CityModel.park.objects }).run
        (.new .standard)).state.builder.stack = [root'] ∧
      root'.members = root.members ++ root.members := by
  obtain ⟨root, member, hstack, hholds, hsame, -⟩ :=
    encode_holdsMembers (.new .standard) .park Options.validate_standard
  obtain ⟨root', hstack', hholds'⟩ := hsame (.new .standard)
    { CityModel.park with
      objects := CityModel.park.objects ++ CityModel.park.objects } rfl
    (by decide +kernel)
  refine ⟨root, root', hstack, hstack', ?_⟩
  rw [hholds'.each, List.map_append, ← hholds.each]

end CityMarkup
