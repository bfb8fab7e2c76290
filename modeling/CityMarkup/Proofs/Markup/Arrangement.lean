import CityMarkup.Markup.Render
import CityMarkup.Proofs.Markup.Names

/-!
# Arranged documents

A document with line breaks is the document on one line of another tree: the
tree in which the line breaks and the indentation are pieces of text of their
own.  Elements and their order are the same in both trees.
-/

namespace CityMarkup

/-- What comes before a tag at a depth, as a piece of text if there is any. -/
def Layout.gapNodes (l : Layout) (breaks : Bool) (depth : Nat) : List Node :=
  if (l.gap breaks depth).isEmpty then []
  else [.text (String.ofList (l.gap breaks depth))]

namespace Markup

mutual

/-- The tree of a node at a depth, with the text that a layout puts inside of
its elements. -/
def arrange (l : Layout) (depth : Nat) : Node → Node
  | .text value => .text value
  | .element name attributes children =>
    match children with
    | [] => .element name attributes []
    | first :: rest =>
      .element name attributes
        (arrangeAll l (depth + 1) true (first :: rest) ++
          l.gapNodes (breaksAfter true (first :: rest)) depth)

/-- The trees of nodes at a depth, with the text that a layout puts inside of
and before their elements. -/
def arrangeAll (l : Layout) (depth : Nat) (breaks : Bool) :
    List Node → List Node
  | [] => []
  | node :: rest =>
    (if node.isElement then l.gapNodes breaks depth else []) ++
      arrange l depth node :: arrangeAll l depth node.isElement rest

end

/-- Nodes on one line. -/
def renderCompact (nodes : List Node) : List Char :=
  nodes.flatMap (renderNode .compact 0 true)

/-! ## On one line -/

mutual

theorem renderNode_compact (depth : Nat) (breaks : Bool) :
    ∀ node : Node,
      renderNode .compact depth breaks node = renderNode .compact 0 true node
  | .text value => by
    rw [renderNode, renderNode]
  | .element name attributes [] => by
    rw [renderNode, renderNode]
    rfl
  | .element name attributes (first :: rest) => by
    rw [renderNode, renderNode,
      renderNodes_compact (depth + 1) true (first :: rest),
      renderNodes_compact (0 + 1) true (first :: rest)]
    rfl

theorem renderNodes_compact (depth : Nat) (breaks : Bool) :
    ∀ nodes : List Node,
      renderNodes .compact depth breaks nodes = renderCompact nodes
  | [] => by
    rw [renderNodes]
    rfl
  | node :: rest => by
    rw [renderNodes, renderNode_compact depth breaks node,
      renderNodes_compact depth node.isElement rest]
    rfl

end

theorem renderCompact_append (first second : List Node) :
    renderCompact (first ++ second) =
      renderCompact first ++ renderCompact second :=
  List.flatMap_append

theorem renderCompact_cons (node : Node) (rest : List Node) :
    renderCompact (node :: rest) =
      renderNode .compact 0 true node ++ renderCompact rest :=
  List.flatMap_cons

theorem renderNode_text (value : String) :
    renderNode .compact 0 true (.text value) = escape value.toList := by
  rw [renderNode]

theorem renderNode_empty (name : String)
    (attributes : List (String × String)) :
    renderNode .compact 0 true (.element name attributes []) =
      '<' :: (renderTag name attributes ++ ['/', '>']) := by
  rw [renderNode]
  rfl

theorem renderNode_filled (name : String)
    (attributes : List (String × String)) {children : List Node}
    (h : children ≠ []) :
    renderNode .compact 0 true (.element name attributes children) =
      '<' :: (renderTag name attributes ++ '>' :: (renderCompact children ++
        '<' :: '/' :: (name.toList ++ ['>']))) := by
  cases children with
  | nil => exact absurd rfl h
  | cons first rest =>
      rw [renderNode, renderNodes_compact]
      simp [Layout.gap]

/-! ## With line breaks -/

theorem escape_gap (l : Layout) (breaks : Bool) (depth : Nat) :
    escape (l.gap breaks depth) = l.gap breaks depth := by
  have hspaces : ∀ n, escape (List.replicate n ' ') = List.replicate n ' ' := by
    intro n
    induction n with
    | zero => rfl
    | succ n ih =>
        rw [List.replicate_succ, escape_cons, ih]
        rfl
  cases l with
  | compact => rfl
  | indented width =>
      cases breaks with
      | false => rfl
      | true =>
          change escape ('\n' :: List.replicate (depth * width) ' ') = _
          rw [escape_cons, hspaces]
          rfl

theorem renderCompact_gapNodes (l : Layout) (breaks : Bool) (depth : Nat) :
    renderCompact (l.gapNodes breaks depth) = l.gap breaks depth := by
  rw [Layout.gapNodes]
  split
  · rename_i hempty
    rw [List.isEmpty_iff.mp hempty]
    rfl
  · rw [renderCompact_cons, renderNode_text, String.toList_ofList,
      escape_gap]
    exact List.append_nil _

mutual

theorem renderNode_eq_arrange (l : Layout) (depth : Nat) (breaks : Bool) :
    ∀ node : Node,
      renderNode l depth breaks node =
        (if node.isElement then l.gap breaks depth else []) ++
          renderNode .compact 0 true (arrange l depth node)
  | .text value => by
    rw [arrange, renderNode, renderNode]
    rfl
  | .element name attributes [] => by
    rw [arrange, renderNode_empty, renderNode]
    simp [Node.isElement]
  | .element name attributes (first :: rest) => by
    have hchildren := renderNodes_eq_arrange l (depth + 1) true (first :: rest)
    have hne : arrangeAll l (depth + 1) true (first :: rest) ++
        l.gapNodes (breaksAfter true (first :: rest)) depth ≠ [] := by
      rw [arrangeAll]
      simp
    rw [arrange, renderNode_filled _ _ hne, renderCompact_append,
      renderCompact_gapNodes, ← hchildren, renderNode]
    simp [Node.isElement]

/-- Nodes in any layout are the arranged nodes on one line. -/
theorem renderNodes_eq_arrange (l : Layout) (depth : Nat) (breaks : Bool) :
    ∀ nodes : List Node,
      renderNodes l depth breaks nodes =
        renderCompact (arrangeAll l depth breaks nodes)
  | [] => by
    rw [renderNodes, arrangeAll]
    rfl
  | node :: rest => by
    rw [renderNodes, renderNode_eq_arrange l depth breaks node,
      renderNodes_eq_arrange l depth node.isElement rest, arrangeAll,
      renderCompact_append, renderCompact_cons, List.append_assoc]
    congr 1
    split
    · rw [renderCompact_gapNodes]
    · rfl

end

/-! ## The elements of arranged trees -/

theorem allElements_gapNodes (l : Layout) (breaks : Bool) (depth : Nat) :
    Node.allElements (l.gapNodes breaks depth) = [] := by
  rw [Layout.gapNodes]
  split <;> rfl

mutual

theorem elements_arrange (l : Layout) (depth : Nat) :
    ∀ node : Node, (arrange l depth node).elements = node.elements
  | .text value => by
    rw [arrange]
  | .element name attributes [] => by
    rw [arrange]
  | .element name attributes (first :: rest) => by
    rw [arrange, Node.elements, Node.elements, Node.allElements_append,
      allElements_gapNodes, allElements_arrangeAll l (depth + 1) true
        (first :: rest), List.append_nil]

theorem allElements_arrangeAll (l : Layout) (depth : Nat) (breaks : Bool) :
    ∀ nodes : List Node,
      Node.allElements (arrangeAll l depth breaks nodes) =
        Node.allElements nodes
  | [] => by
    rw [arrangeAll]
  | node :: rest => by
    have hgap : Node.allElements
        (if node.isElement then l.gapNodes breaks depth else []) = [] := by
      split
      · exact allElements_gapNodes l breaks depth
      · rfl
    rw [arrangeAll, Node.allElements_append, hgap, List.nil_append,
      Node.allElements, Node.allElements, elements_arrange l depth node,
      allElements_arrangeAll l depth node.isElement rest]

end

end Markup

end CityMarkup
