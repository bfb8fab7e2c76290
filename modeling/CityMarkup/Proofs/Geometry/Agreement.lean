import CityMarkup.Proofs.Geometry.Positions

/-!
# Agreement of geometries

When two geometries are to be written alike, and the same for what they are
made of.  The elements of rings, lines and polygons tell them up to agreement.
-/

namespace CityMarkup

/-! ## Agreement -/

/-- Whether two roles are written alike where there is no content: both stand
for a triangulated terrain, both for a boundary surface, or neither. -/
structure GeometryRole.SameClass (r t : GeometryRole) : Prop where
  tin : r = .tin ↔ t = .tin
  surface : r.isSurface = t.isSurface

/-- Agreement of rings. -/
structure Ring.Agrees (r t : Ring) : Prop where
  id : r.id = t.id
  vertices : List.Forall₂ Position.Agrees r.vertices t.vertices

/-- Agreement of lines. -/
structure Line.Agrees (l m : Line) : Prop where
  id : l.id = m.id
  vertices : List.Forall₂ Position.Agrees l.vertices m.vertices

/-- Agreement of polygons in everything but their appearance. -/
structure Polygon.Agrees (p q : Polygon) : Prop where
  id : p.id = q.id
  exterior : Option.Rel Ring.Agrees p.exterior q.exterior
  interiors : List.Forall₂ Ring.Agrees p.interiors q.interiors

/-- Agreement of geometries in everything but levels of detail, appearances,
and the roles of geometries with content. -/
inductive Geometry.Agrees : Geometry → Geometry → Prop where
  | intro {g h : Geometry} (id : g.id = h.id)
      (polygons : List.Forall₂ Polygon.Agrees g.polygons h.polygons)
      (lines : List.Forall₂ Line.Agrees g.lines h.lines)
      (children : List.Forall₂ Agrees g.children h.children)
      (role : g.isEmpty = true → g.role.SameClass h.role) : Agrees g h

theorem Geometry.agrees_iff {g h : Geometry} :
    g.Agrees h ↔
      g.id = h.id ∧
      List.Forall₂ Polygon.Agrees g.polygons h.polygons ∧
      List.Forall₂ Line.Agrees g.lines h.lines ∧
      List.Forall₂ Geometry.Agrees g.children h.children ∧
      (g.isEmpty = true → g.role.SameClass h.role) := by
  constructor
  · rintro ⟨hid, hpolygons, hlines, hchildren, hrole⟩
    exact ⟨hid, hpolygons, hlines, hchildren, hrole⟩
  · rintro ⟨hid, hpolygons, hlines, hchildren, hrole⟩
    exact ⟨hid, hpolygons, hlines, hchildren, hrole⟩

/-! ## Rings, lines and polygons -/

section Parts

variable (s : Settings)

theorem Ring.toNode_eq_iff (r t : Ring) :
    r.fragment.toNode s = t.fragment.toNode s ↔ r.Agrees t := by
  rw [fragment, fragment, Fragment.toNode_identified_eq_iff,
    Position.toNodes_listFragments_eq_iff]
  constructor
  · rintro ⟨-, hid, hvertices⟩
    exact ⟨hid, hvertices⟩
  · rintro ⟨hid, hvertices⟩
    exact ⟨rfl, hid, hvertices⟩

theorem Line.toNode_eq_iff (l m : Line) :
    l.fragment.toNode s = m.fragment.toNode s ↔ l.Agrees m := by
  rw [fragment, fragment, Fragment.toNode_identified_eq_iff,
    Position.toNodes_listFragments_eq_iff]
  constructor
  · rintro ⟨-, hid, hvertices⟩
    exact ⟨hid, hvertices⟩
  · rintro ⟨hid, hvertices⟩
    exact ⟨rfl, hid, hvertices⟩

theorem Ring.toNode_wrap_eq_iff (role : String) (r t : Ring) :
    Fragment.toNode s (.wrap role .gml [r.fragment]) =
        Fragment.toNode s (.wrap role .gml [t.fragment]) ↔ r.Agrees t := by
  rw [Fragment.toNode_wrap_eq_iff, Fragment.toNodes_singleton_eq_iff,
    toNode_eq_iff]
  exact and_iff_right rfl

theorem forall₂_toList_iff {α : Type} {R : α → α → Prop} {a b : Option α} :
    List.Forall₂ R a.toList b.toList ↔ Option.Rel R a b := by
  cases a with
  | none =>
      cases b with
      | none => simp
      | some b => simp
  | some a =>
      cases b with
      | none => simp
      | some b => simp

theorem isNamed_of_mem_toNodes_map {α : Type} {f : α → Fragment}
    {name other : String}
    (hf : ∀ a, ∃ attributes content,
      f a = .element name .gml attributes content) {l : List α} {node : Node}
    (hmem : node ∈ Fragment.toNodes s (l.map f)) :
    node.isNamed (s.qualify other .gml) = (name == other) := by
  obtain ⟨a, -, rfl⟩ := (Fragment.mem_toNodes_map s).mp hmem
  obtain ⟨attributes, content, heq⟩ := hf a
  rw [heq]
  exact Fragment.isNamed_toNode s name other .gml attributes content

theorem Polygon.toNode_eq_iff (p q : Polygon) :
    p.fragment.toNode s = q.fragment.toNode s ↔ p.Agrees q := by
  have hnamed : ∀ (role : String) (rings : List Ring), ∀ node ∈
      Fragment.toNodes s (rings.map fun r => .wrap role .gml [r.fragment]),
      node.isNamed (s.qualify "exterior" .gml) = (role == "exterior") :=
    fun role rings node hmem =>
      isNamed_of_mem_toNodes_map s (fun r => ⟨_, _, rfl⟩) hmem
  rw [fragment, fragment, Fragment.toNode_identified_eq_iff,
    Fragment.toNodes_append, Fragment.toNodes_append,
    append_eq_append_iff_of_separated (hnamed "exterior" _)
      (hnamed "exterior" _) (hnamed "interior" _) (hnamed "interior" _),
    Fragment.toNodes_map_eq_iff s (Ring.toNode_wrap_eq_iff s "exterior"),
    Fragment.toNodes_map_eq_iff s (Ring.toNode_wrap_eq_iff s "interior"),
    forall₂_toList_iff]
  constructor
  · rintro ⟨-, hid, hexterior, hinteriors⟩
    exact ⟨hid, hexterior, hinteriors⟩
  · rintro ⟨hid, hexterior, hinteriors⟩
    exact ⟨rfl, hid, hexterior, hinteriors⟩

end Parts

end CityMarkup
