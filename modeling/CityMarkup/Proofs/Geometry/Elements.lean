import CityMarkup.Proofs.Geometry.Agreement

/-!
# What the element of a geometry tells

The element of a geometry tells everything about the geometry but its level of
detail, its appearance, and a role that its content makes redundant.  Polygons,
lines and nested geometries stand next to each other in one element.  They can
be told apart: a polygon stands in an element of its own, and a nested geometry
that is written under the name of a line holds an element of that name, which
a line never does.
-/

namespace CityMarkup

/-! ## Kinds -/

namespace GeometryKind

theorem elementName_injective : Function.Injective elementName := by
  intro kind other h
  cases kind <;> cases other <;> first | rfl | (revert h; decide)

theorem ofRole_eq_iff (r t : GeometryRole) :
    ofRole r = ofRole t ↔ r.SameClass t := by
  constructor
  · intro h
    constructor
    · cases r <;> cases t <;> revert h <;> decide
    · cases r <;> cases t <;> revert h <;> decide
  · rintro ⟨htin, hsurface⟩
    rw [ofRole, ofRole, hsurface]
    simp only [htin]

/-- The kind depends on the role where there is no content only. -/
theorem infer_eq_infer_iff (children polygons lines : Nat)
    (r t : GeometryRole) :
    infer children polygons lines r = infer children polygons lines t ↔
      (children = 0 → polygons = 0 → lines = 0 → r.SameClass t) := by
  rw [← ofRole_eq_iff]
  cases children with
  | succ n => simp [infer]
  | zero =>
      cases polygons with
      | succ n => cases n <;> simp [infer]
      | zero =>
          cases lines with
          | succ n => cases n <;> simp [infer]
          | zero => simp [infer]

theorem counts_of_infer_eq_lineString {children polygons lines : Nat}
    {role : GeometryRole}
    (h : infer children polygons lines role = lineString) :
    children = 0 ∧ polygons = 0 ∧ lines = 1 := by
  cases children with
  | succ n => simp [infer] at h
  | zero =>
      cases polygons with
      | succ n => cases n <;> simp [infer] at h
      | zero =>
          cases lines with
          | succ n =>
              cases n with
              | zero => exact ⟨rfl, rfl, rfl⟩
              | succ n => simp [infer] at h
          | zero =>
              revert h
              cases role <;> decide

end GeometryKind

/-! ## Lines and nested geometries -/

/-- Whether a node is an element of a given name without an element of that
name in it. -/
def Node.isInnermost (name : String) : Node → Bool
  | .element found _ content =>
    found == name && content.all fun node => !node.isNamed name
  | .text _ => false

section Separation

variable (s : Settings)

theorem Line.isInnermost_toNode (l : Line) :
    (l.fragment.toNode s).isInnermost (s.qualify "LineString" .gml) =
      true := by
  have hpositions : ∀ node ∈
      Fragment.toNodes s (Position.listFragments l.vertices),
      node.isNamed (s.qualify "LineString" .gml) = false := by
    intro node hmem
    rw [Position.listFragments] at hmem
    by_cases h : l.vertices.isEmpty = true
    · rw [if_pos h, Fragment.toNodes] at hmem
      cases hmem
    · rw [if_neg h, Fragment.toNodes, Fragment.toNodes,
        List.mem_singleton] at hmem
      rw [hmem]
      exact Fragment.isNamed_toNode s "posList" "LineString" _ _ _
  rw [fragment, Fragment.toNode_identified, Node.isInnermost, beq_self_eq_true,
    Bool.true_and, List.all_eq_true]
  intro node hmem
  rw [hpositions node hmem]
  rfl

/-- A geometry that is written under the name of a line holds a line. -/
theorem Geometry.isInnermost_toNode (g : Geometry) :
    (g.fragment.toNode s).isInnermost (s.qualify "LineString" .gml) =
      false := by
  rw [fragment_eq, Fragment.toNode_identified, Node.isInnermost]
  by_cases hkind : g.kind = .lineString
  · obtain ⟨hchildren, hpolygons, hlines⟩ :=
      GeometryKind.counts_of_infer_eq_lineString hkind
    rw [List.length_eq_zero_iff] at hchildren hpolygons
    obtain ⟨l, hl⟩ := List.length_eq_one_iff.mp hlines
    have hnamed : (l.fragment.toNode s).isNamed
        (s.qualify "LineString" .gml) = true :=
      Fragment.isNamed_toNode s "LineString" "LineString" .gml _ _
    rw [hkind, hchildren, hpolygons, hl, enclose, if_neg (by decide)]
    simp [Fragment.toNodes, hnamed]
  · have hname : g.kind.elementName ≠ "LineString" := by
      intro h
      exact hkind (GeometryKind.elementName_injective h)
    have hqualified := (s.qualify_injective .gml).ne hname
    rw [beq_eq_false_iff_ne.mpr hqualified, Bool.false_and]

/-- A line is never written like a geometry, not even like one that is written
under the name of a line. -/
theorem Line.toNode_ne (l : Line) (g : Geometry) :
    l.fragment.toNode s ≠ g.fragment.toNode s := by
  intro h
  have hline := l.isInnermost_toNode s
  rw [h, g.isInnermost_toNode s] at hline
  cases hline

/-- The content of a geometry tells its polygons, its lines and what is nested
in it. -/
theorem Geometry.toNodes_content_eq_iff (polygons polygons' : List Polygon)
    (lines lines' : List Line) (children children' : List Geometry) :
    Fragment.toNodes s
        (polygons.map (fun p => .wrap "surfaceMember" .gml [p.fragment]) ++
          lines.map Line.fragment ++ fragments children) =
        Fragment.toNodes s
          (polygons'.map (fun p => .wrap "surfaceMember" .gml [p.fragment]) ++
            lines'.map Line.fragment ++ fragments children') ↔
      List.Forall₂ Polygon.Agrees polygons polygons' ∧
      List.Forall₂ Line.Agrees lines lines' ∧
      Fragment.toNodes s (fragments children) =
        Fragment.toNodes s (fragments children') := by
  have hmember : ∀ polygons : List Polygon, ∀ node ∈ Fragment.toNodes s
      (polygons.map fun p => .wrap "surfaceMember" .gml [p.fragment]),
      node.isNamed (s.qualify "surfaceMember" .gml) = true :=
    fun polygons node hmem =>
      isNamed_of_mem_toNodes_map s (fun p => ⟨_, _, rfl⟩) hmem
  have hother : ∀ (lines : List Line) (children : List Geometry), ∀ node ∈
      Fragment.toNodes s (lines.map Line.fragment) ++
        Fragment.toNodes s (fragments children),
      node.isNamed (s.qualify "surfaceMember" .gml) = false := by
    intro lines children node hmem
    rcases List.mem_append.mp hmem with hmem | hmem
    · exact isNamed_of_mem_toNodes_map s (fun l => ⟨_, _, rfl⟩) hmem
    · rw [fragments_eq_map] at hmem
      obtain ⟨g, -, rfl⟩ := (Fragment.mem_toNodes_map s).mp hmem
      rw [fragment_eq, Fragment.isNamed_toNode]
      cases g.kind <;> rfl
  have hline : ∀ lines : List Line, ∀ node ∈
      Fragment.toNodes s (lines.map Line.fragment),
      node.isInnermost (s.qualify "LineString" .gml) = true := by
    intro lines node hmem
    obtain ⟨l, -, rfl⟩ := (Fragment.mem_toNodes_map s).mp hmem
    exact l.isInnermost_toNode s
  have hnested : ∀ children : List Geometry, ∀ node ∈
      Fragment.toNodes s (fragments children),
      node.isInnermost (s.qualify "LineString" .gml) = false := by
    intro children node hmem
    rw [fragments_eq_map] at hmem
    obtain ⟨g, -, rfl⟩ := (Fragment.mem_toNodes_map s).mp hmem
    exact g.isInnermost_toNode s
  have hpolygons : ∀ p q : Polygon,
      Fragment.toNode s (.wrap "surfaceMember" .gml [p.fragment]) =
        Fragment.toNode s (.wrap "surfaceMember" .gml [q.fragment]) ↔
      p.Agrees q := by
    intro p q
    rw [Fragment.toNode_wrap_eq_iff, Fragment.toNodes_singleton_eq_iff,
      Polygon.toNode_eq_iff]
    exact and_iff_right rfl
  rw [List.append_assoc, List.append_assoc]
  simp only [Fragment.toNodes_append]
  rw [append_eq_append_iff_of_separated (hmember _) (hmember _) (hother _ _)
      (hother _ _),
    append_eq_append_iff_of_separated (hline _) (hline _) (hnested _)
      (hnested _),
    Fragment.toNodes_map_eq_iff s hpolygons,
    Fragment.toNodes_map_eq_iff s (Line.toNode_eq_iff s)]

theorem Geometry.toNodes_enclose_eq_iff (kind : GeometryKind)
    (content content' : List Fragment) :
    Fragment.toNodes s (enclose kind content) =
        Fragment.toNodes s (enclose kind content') ↔
      Fragment.toNodes s content = Fragment.toNodes s content' := by
  by_cases h : kind = .solid
  · rw [enclose, enclose, if_pos h, if_pos h,
      Fragment.toNodes_singleton_eq_iff, Fragment.toNode_wrap_eq_iff]
    exact and_iff_right rfl
  · rw [enclose, enclose, if_neg h, if_neg h]

end Separation

/-! ## Geometries -/

theorem Geometry.isEmpty_iff (g : Geometry) :
    g.isEmpty = true ↔
      g.polygons = [] ∧ g.lines = [] ∧ g.children = [] := by
  simp [isEmpty, and_assoc]

mutual

/-- The element of a geometry tells the geometry up to agreement. -/
theorem Geometry.toNode_eq_iff (s : Settings) : ∀ g h : Geometry,
    g.fragment.toNode s = h.fragment.toNode s ↔ g.Agrees h
  | ⟨id, lod, role, polygons, lines, children, appearance⟩,
    ⟨id', lod', role', polygons', lines', children', appearance'⟩ => by
    have hchildren := toNodes_fragments_eq_iff s children children'
    have hkind : polygons.length = polygons'.length →
        lines.length = lines'.length → children.length = children'.length →
        (GeometryKind.infer children.length polygons.length lines.length role =
            .infer children'.length polygons'.length lines'.length role' ↔
          (isEmpty ⟨id, lod, role, polygons, lines, children, appearance⟩ =
            true → role.SameClass role')) := by
      intro hpolygons hlines hnested
      rw [← hpolygons, ← hlines, ← hnested, GeometryKind.infer_eq_infer_iff,
        isEmpty_iff]
      simp only [List.length_eq_zero_iff]
      constructor
      · rintro h ⟨hpolygons, hlines, hchildren⟩
        exact h hchildren hpolygons hlines
      · rintro h hchildren hpolygons hlines
        exact h ⟨hpolygons, hlines, hchildren⟩
    rw [agrees_iff, fragment, fragment, Fragment.toNode_identified_eq_iff]
    constructor
    · rintro ⟨hname, hid, hcontent⟩
      have hsame := GeometryKind.elementName_injective hname
      rw [hsame, toNodes_enclose_eq_iff, toNodes_content_eq_iff,
        hchildren] at hcontent
      obtain ⟨hpolygons, hlines, hnested⟩ := hcontent
      refine ⟨hid, hpolygons, hlines, hnested, ?_⟩
      exact (hkind hpolygons.length_eq hlines.length_eq
        hnested.length_eq).mp hsame
    · rintro ⟨hid, hpolygons, hlines, hnested, hrole⟩
      have hsame := (hkind hpolygons.length_eq hlines.length_eq
        hnested.length_eq).mpr hrole
      refine ⟨congrArg GeometryKind.elementName hsame, hid, ?_⟩
      rw [hsame, toNodes_enclose_eq_iff, toNodes_content_eq_iff, hchildren]
      exact ⟨hpolygons, hlines, hnested⟩

theorem Geometry.toNodes_fragments_eq_iff (s : Settings) :
    ∀ gs hs : List Geometry,
    Fragment.toNodes s (fragments gs) = Fragment.toNodes s (fragments hs) ↔
      List.Forall₂ Geometry.Agrees gs hs
  | [], [] => by simp
  | [], h :: more => by simp [fragments, Fragment.toNodes]
  | g :: rest, [] => by simp [fragments, Fragment.toNodes]
  | g :: rest, h :: more => by
    rw [fragments, fragments, Fragment.toNodes, Fragment.toNodes,
      List.cons.injEq, toNode_eq_iff s g h,
      toNodes_fragments_eq_iff s rest more, List.forall₂_cons]

end

/-! ## What the encoders add -/

/-- How some positions are written: not at all if there are none, and
otherwise as one element whose text has three tokens for each position, the
texts of its coordinates. -/
structure Position.WrittenAs (s : Settings) (vertices : List Position)
    (nodes : List Node) : Prop where
  absent : vertices = [] → nodes = []
  present : vertices ≠ [] → ∃ text,
    nodes = [.element (s.qualify "posList" .gml) [("srsDimension", "3")]
      [.text text]] ∧
    spaceSeparated text = tokens vertices ∧
    (spaceSeparated text).length = 3 * vertices.length ∧
    ∀ token ∈ spaceSeparated text, ' ' ∉ token.toList ∧ token.toList ≠ []

theorem Position.writtenAs_toNodes (s : Settings)
    (vertices : List Position) :
    WrittenAs s vertices (Fragment.toNodes s (listFragments vertices)) where
  absent := by
    rintro rfl
    rfl
  present := by
    intro h
    have htokens := spaceSeparated_listText h
    have hempty : ¬vertices.isEmpty = true := by
      rw [List.isEmpty_iff]
      exact h
    refine ⟨listText vertices, ?_, htokens, ?_, ?_⟩
    · rw [listFragments, if_neg hempty]
      rfl
    · rw [htokens]
      exact length_tokens vertices
    · intro token hmem
      rw [htokens] at hmem
      exact isToken_of_mem_tokens hmem

namespace Builder

/-- Writing a geometry loses nothing but levels of detail, appearances and
redundant roles: on open builders with the same settings two geometries add
the same element exactly if they agree.  A line never adds the element of a
geometry.  The vertices of rings and of lines are written with three tokens for
each vertex. -/
theorem addGeometry_eq_iff_agrees (s : Settings) :
    (∀ g h : Geometry, ∃ a b : Node,
      Adds (addGeometry g) s () [a] [] ∧ Adds (addGeometry h) s () [b] [] ∧
      (a = b ↔ g.Agrees h)) ∧
    (∀ (l : Line) (g : Geometry), ∃ a b : Node,
      Adds (addLine l) s () [a] [] ∧ Adds (addGeometry g) s () [b] [] ∧
      a ≠ b) ∧
    (∀ r : Ring, ∃ nodes, Position.WrittenAs s r.vertices nodes ∧
      Adds (addRing r) s ()
        [.element (s.qualify "LinearRing" .gml) (Fragment.identity r.id)
          nodes] []) ∧
    (∀ l : Line, ∃ nodes, Position.WrittenAs s l.vertices nodes ∧
      Adds (addLine l) s ()
        [.element (s.qualify "LineString" .gml) (Fragment.identity l.id)
          nodes] []) := by
  have hgeometry : ∀ g : Geometry,
      Adds (addGeometry g) s () [g.fragment.toNode s] [] := by
    intro g
    rw [addGeometry_eq]
    exact adds_insert s g.fragment
  have hline : ∀ l : Line, Adds (addLine l) s () [l.fragment.toNode s] [] := by
    intro l
    rw [addLine_eq]
    exact adds_insert s l.fragment
  have hring : ∀ r : Ring, Adds (addRing r) s () [r.fragment.toNode s] [] := by
    intro r
    rw [addRing_eq]
    exact adds_insert s r.fragment
  refine ⟨?_, ?_, ?_, ?_⟩
  · intro g h
    exact ⟨_, _, hgeometry g, hgeometry h, Geometry.toNode_eq_iff s g h⟩
  · intro l g
    exact ⟨_, _, hline l, hgeometry g, Line.toNode_ne s l g⟩
  · intro r
    refine ⟨_, Position.writtenAs_toNodes s r.vertices, ?_⟩
    rw [← Fragment.toNode_identified, ← Ring.fragment]
    exact hring r
  · intro l
    refine ⟨_, Position.writtenAs_toNodes s l.vertices, ?_⟩
    rw [← Fragment.toNode_identified, ← Line.fragment]
    exact hline l

end Builder

end CityMarkup
