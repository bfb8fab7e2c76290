import CityMarkup.Proofs.Markup.RoundTrip

/-!
# Line breaks and content

A layered tree has text only in elements without elements in them.  A layout
puts its line breaks and its indentation next to elements and never next to
the text of a layered tree.  Whoever drops the blank text next to elements is
left with the tree that was written, apart from empty pieces of text, which
cannot be seen in any document.
-/

namespace CityMarkup

namespace Node

/-- Whether every element holds either one piece of text or elements only. -/
inductive Layered : Node → Prop where
  | leaf (name : String) (attributes : List (String × String))
      (value : String) : Layered (.element name attributes [.text value])
  | inner (name : String) (attributes : List (String × String))
      {children : List Node} (h : ∀ child ∈ children, Layered child) :
      Layered (.element name attributes children)

theorem Layered.isElement {node : Node} (h : node.Layered) :
    node.isElement = true := by
  cases h <;> rfl

/-- Whether a node is text that consists of blanks. -/
def isBlankText : Node → Bool
  | .text value => value.toList.all Markup.isBlank
  | .element .. => false

/-- Whether a node is an empty piece of text. -/
def isEmptyText : Node → Bool
  | .text value => value.isEmpty
  | .element .. => false

mutual

/-- A node without the blank text next to elements in it. -/
def unspaced : Node → Node
  | .text value => .text value
  | .element name attributes children =>
    .element name attributes
      (if children.any isElement then unspacedAll children else children)

/-- Nodes without the blank text among them and next to elements in them. -/
def unspacedAll : List Node → List Node
  | [] => []
  | node :: rest =>
    if node.isBlankText then unspacedAll rest
    else unspaced node :: unspacedAll rest

end

mutual

/-- A node without the empty pieces of text in it. -/
def visible : Node → Node
  | .text value => .text value
  | .element name attributes children =>
    .element name attributes (visibleAll children)

/-- Nodes without the empty pieces of text among them and in them. -/
def visibleAll : List Node → List Node
  | [] => []
  | node :: rest =>
    if node.isEmptyText then visibleAll rest
    else visible node :: visibleAll rest

end

theorem unspacedAll_append (first second : List Node) :
    unspacedAll (first ++ second) =
      unspacedAll first ++ unspacedAll second := by
  induction first with
  | nil => rfl
  | cons node rest ih =>
      rw [List.cons_append, unspacedAll, unspacedAll, ih]
      split <;> rfl

theorem isElement_unspaced (node : Node) :
    node.unspaced.isElement = node.isElement := by
  cases node <;> rfl

/-- Dropping blank text leaves the elements there. -/
theorem any_isElement_unspacedAll (nodes : List Node) :
    (unspacedAll nodes).any isElement = nodes.any isElement := by
  induction nodes with
  | nil => rfl
  | cons node rest ih =>
      rw [unspacedAll]
      split
      · rename_i hblank
        cases node with
        | text value => exact ih
        | element name attributes children => cases hblank
      · rw [List.any_cons, List.any_cons, isElement_unspaced, ih]

end Node

namespace Markup

open Node

/-! ## Blank text -/

theorem unspacedAll_textNodes {pending : List Char}
    (h : pending.all isBlank = true) :
    unspacedAll (textNodes pending) = [] := by
  rw [textNodes]
  split
  · rfl
  · rw [unspacedAll, isBlankText, String.toList_ofList, if_pos h]
    rfl

theorem all_isBlank_gap (l : Layout) (breaks : Bool) (depth : Nat) :
    (l.gap breaks depth).all isBlank = true := by
  cases l with
  | compact => rfl
  | indented width =>
      cases breaks with
      | false => rfl
      | true =>
          rw [Layout.gap, if_pos rfl, List.all_cons, List.all_replicate]
          simp [isBlank]

theorem all_isBlank_ending (l : Layout) : l.ending.all isBlank = true := by
  cases l <;> rfl

/-- A gap adds its blanks to the text before it. -/
theorem mergeFrom_gapNodes (l : Layout) (breaks : Bool) (depth : Nat)
    (pending : List Char) :
    mergeFrom pending (l.gapNodes breaks depth) =
      ⟨[], pending ++ l.gap breaks depth⟩ := by
  rw [Layout.gapNodes]
  split
  · rename_i hempty
    rw [mergeFrom, List.isEmpty_iff.mp hempty, List.append_nil]
  · simp [mergeFrom, mergeNode]

/-! ## Layered trees on one line -/

mutual

theorem arrange_compact (depth : Nat) :
    ∀ node : Node, arrange .compact depth node = node
  | .text value => by
    rw [arrange]
  | .element name attributes [] => by
    rw [arrange]
  | .element name attributes (first :: rest) => by
    rw [arrange, arrangeAll_compact (depth + 1) true (first :: rest)]
    exact congrArg _ (List.append_nil _)

theorem arrangeAll_compact (depth : Nat) (breaks : Bool) :
    ∀ nodes : List Node, arrangeAll .compact depth breaks nodes = nodes
  | [] => by
    rw [arrangeAll]
  | node :: rest => by
    rw [arrangeAll, arrange_compact depth node,
      arrangeAll_compact depth node.isElement rest]
    exact congrArg (· ++ node :: rest) (ite_self [])

end

theorem textNodes_toList (value : String) :
    textNodes value.toList = visibleAll [.text value] := by
  have hempty : value.toList.isEmpty = value.isEmpty := by
    rw [Bool.eq_iff_iff, List.isEmpty_iff, String.isEmpty_iff,
      String.toList_eq_nil_iff]
  rw [textNodes, visibleAll, isEmptyText, visible, visibleAll,
    String.ofList_toList, hempty]

theorem visibleAll_cons {node : Node} (h : node.isElement = true)
    (rest : List Node) :
    visibleAll (node :: rest) = node.visible :: visibleAll rest := by
  cases node with
  | text value => cases h
  | element name attributes children => rfl

theorem mergeFrom_of_forall {nodes : List Node}
    (h : ∀ node ∈ nodes, node.isElement = true ∧ ∀ pending,
      mergeNode pending node = ⟨textNodes pending ++ [node.visible], []⟩) :
    mergeFrom [] nodes = ⟨visibleAll nodes, []⟩ := by
  induction nodes with
  | nil => rfl
  | cons node rest ih =>
      rw [List.forall_mem_cons] at h
      obtain ⟨⟨helement, hnode⟩, hrest⟩ := h
      rw [mergeFrom, hnode, ih hrest, visibleAll_cons helement]
      rfl

/-- From a layered tree on one line only the empty text is lost. -/
theorem mergeNode_of_layered {node : Node} (h : node.Layered) :
    ∀ pending, mergeNode pending node =
      ⟨textNodes pending ++ [node.visible], []⟩ := by
  induction h with
  | leaf name attributes value =>
      intro pending
      rw [mergeNode, visible, ← textNodes_toList]
      simp [mergeFrom, mergeNode]
  | inner name attributes hchildren ih =>
      intro pending
      have hmerged := mergeFrom_of_forall fun child hmem =>
        ⟨(hchildren child hmem).isElement, ih child hmem⟩
      rw [mergeNode, visible, hmerged]
      simp [textNodes]

/-! ## Layered trees with line breaks -/

theorem unspaced_element {first : Node} (hfirst : first.isElement = true)
    {rest content : List Node}
    (h : unspacedAll content = visibleAll (first :: rest)) (name : String)
    (attributes : List (String × String)) :
    unspaced (.element name attributes content) =
      visible (.element name attributes (first :: rest)) := by
  have hvisible : first.visible.isElement = true := by
    cases first with
    | text value => cases hfirst
    | element name attributes children => rfl
  have hany : content.any isElement = true := by
    rw [← any_isElement_unspacedAll, h, visibleAll_cons hfirst, List.any_cons,
      hvisible, Bool.true_or]
  rw [unspaced, if_pos hany, h, visible]

/-- What is left of a node behind blanks is what can be seen of another one. -/
def LeavesVisible (found node : Node) : Prop :=
  ∀ pending : List Char, pending.all isBlank = true →
    unspacedAll (mergeNode pending found).nodes = [node.visible] ∧
      (mergeNode pending found).pending = []

theorem unspacedAll_arrangeAll {l : Layout} {depth : Nat} {nodes : List Node}
    (h : ∀ node ∈ nodes, node.isElement = true ∧
      LeavesVisible (arrange l depth node) node) :
    ∀ (breaks : Bool) (pending : List Char), pending.all isBlank = true →
      unspacedAll (mergeFrom pending
          (arrangeAll l depth breaks nodes)).nodes = visibleAll nodes ∧
        (mergeFrom pending
          (arrangeAll l depth breaks nodes)).pending.all isBlank = true := by
  induction nodes with
  | nil =>
      intro breaks pending hpending
      rw [arrangeAll, mergeFrom]
      exact ⟨rfl, hpending⟩
  | cons node rest ih =>
      intro breaks pending hpending
      rw [List.forall_mem_cons] at h
      obtain ⟨⟨helement, hnode⟩, hrest⟩ := h
      have hgap : (pending ++ l.gap breaks depth).all isBlank = true := by
        rw [List.all_append, hpending, all_isBlank_gap]
        rfl
      obtain ⟨hfirst, hnone⟩ := hnode _ hgap
      obtain ⟨hothers, hlast⟩ := ih hrest node.isElement [] rfl
      rw [arrangeAll, if_pos helement, mergeFrom_append, mergeFrom_gapNodes,
        mergeFrom, hnone, List.nil_append, unspacedAll_append, hfirst,
        hothers, visibleAll_cons helement]
      exact ⟨rfl, hlast⟩

/-- From a layered tree in any layout the blank text can be dropped, and then
only the empty text is lost. -/
theorem leavesVisible_arrange (l : Layout) {node : Node} (h : node.Layered) :
    ∀ depth, LeavesVisible (arrange l depth node) node := by
  induction h with
  | leaf name attributes value =>
      intro depth pending hpending
      have htext : arrangeAll l (depth + 1) true [.text value] ++
          l.gapNodes (breaksAfter true [.text value]) depth =
          [.text value] := by
        cases l <;> rfl
      have hkept : (textNodes value.toList).any isElement = false := by
        rw [textNodes]
        split <;> rfl
      rw [arrange, htext, mergeNode_of_layered (.leaf name attributes value),
        unspacedAll_append, unspacedAll_textNodes hpending, visible,
        ← textNodes_toList, unspacedAll, isBlankText, unspaced, hkept]
      exact ⟨rfl, rfl⟩
  | inner name attributes hchildren ih =>
      rename_i children
      intro depth pending hpending
      cases children with
      | nil =>
          have hnone : ∀ child ∈ ([] : List Node), child.Layered := by
            intro child hmem
            cases hmem
          rw [arrange, mergeNode_of_layered (.inner name attributes hnone),
            unspacedAll_append, unspacedAll_textNodes hpending]
          exact ⟨rfl, rfl⟩
      | cons first rest =>
          have hfirst := (hchildren first List.mem_cons_self).isElement
          obtain ⟨hall, hlast⟩ := unspacedAll_arrangeAll (fun child hmem =>
            ⟨(hchildren child hmem).isElement, ih child hmem (depth + 1)⟩)
            true [] rfl
          have hgap := List.all_append.trans (Bool.and_eq_true_iff.mpr
            ⟨hlast, all_isBlank_gap l
              (breaksAfter true (first :: rest)) depth⟩)
          rw [arrange, mergeNode, mergeFrom_append, mergeFrom_gapNodes]
          refine ⟨?_, rfl⟩
          rw [unspacedAll_append, unspacedAll_textNodes hpending,
            List.nil_append, unspacedAll, isBlankText,
            if_neg Bool.false_ne_true, unspaced_element hfirst]
          · rfl
          · rw [List.append_nil, unspacedAll_append, hall,
              unspacedAll_textNodes hgap, List.append_nil]

/-! ## Whole documents -/

theorem unspacedAll_documentNodes (l : Layout) {root : Node}
    (h : root.Layered) :
    unspacedAll (mergeTexts (documentNodes l root)) = [root.visible] := by
  have hroot : ∀ node ∈ [root], node.isElement = true ∧
      LeavesVisible (arrange l 0 node) node := by
    intro node hmem
    rw [List.mem_singleton.mp hmem]
    exact ⟨h.isElement, leavesVisible_arrange l h 0⟩
  have hending : ∀ pending, mergeFrom pending l.endingNodes =
      ⟨[], pending ++ l.ending⟩ := by
    intro pending
    cases l <;> simp [Layout.endingNodes, Layout.ending, mergeFrom, mergeNode]
  obtain ⟨hall, hlast⟩ := unspacedAll_arrangeAll hroot true [] rfl
  have hblank := List.all_append.trans (Bool.and_eq_true_iff.mpr
    ⟨hlast, all_isBlank_ending l⟩)
  rw [mergeTexts, documentNodes, mergeFrom_append, hending, unspacedAll_append,
    unspacedAll_textNodes hblank, List.append_nil, List.append_nil, hall,
    visibleAll_cons h.isElement]
  rfl

theorem mergeTexts_compact {root : Node} (h : root.Layered) :
    mergeTexts (documentNodes .compact root) = [root.visible] := by
  have hnodes : documentNodes .compact root = [root] := by
    rw [documentNodes, arrangeAll_compact]
    rfl
  rw [hnodes, mergeTexts, mergeFrom, mergeNode_of_layered h]
  rfl

namespace Reader

variable {encoding : String} {root : Node}

/-- A layered tree on one line is read back without its empty text. -/
theorem nodes?_compact (hencoding : '>' ∉ encoding.toList)
    (hplain : root.IsPlain) (hlayered : root.Layered) :
    nodes? (renderDocument .compact encoding root) = some [root.visible] := by
  rw [nodes?_renderDocument .compact hencoding hplain,
    mergeTexts_compact hlayered]

/-- In every layout a layered tree is read back without its empty text, once
the blank text next to elements is dropped. -/
theorem nodes?_unspaced (l : Layout) (hencoding : '>' ∉ encoding.toList)
    (hplain : root.IsPlain) (hlayered : root.Layered) :
    (nodes? (renderDocument l encoding root)).map unspacedAll =
      some [root.visible] := by
  rw [nodes?_renderDocument l hencoding hplain, Option.map_some,
    unspacedAll_documentNodes l hlayered]

end Reader

end Markup

end CityMarkup
