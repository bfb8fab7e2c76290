import CityMarkup.Proofs.Markup.Reader

/-!
# Reading documents back

From a plain tree that was written in any layout the reader gets the arranged
tree, in which neighboring pieces of text are one and empty pieces are gone.
Without its text this is the tree that was written.
-/

namespace CityMarkup

namespace Markup

/-! ## Merged text -/

/-- A piece of text, if there is any. -/
def textNodes (pending : List Char) : List Node :=
  if pending.isEmpty then [] else [.text (String.ofList pending)]

/-- Nodes whose pieces of text are merged, and the text behind the last of
them. -/
structure Merged where
  nodes : List Node
  pending : List Char

mutual

/-- A node behind some text, with neighboring pieces of text merged. -/
def mergeNode (pending : List Char) : Node → Merged
  | .text value => ⟨[], pending ++ value.toList⟩
  | .element name attributes children =>
    let inner := mergeFrom [] children
    ⟨textNodes pending ++ [.element name attributes
      (inner.nodes ++ textNodes inner.pending)], []⟩

/-- Nodes behind some text, with neighboring pieces of text merged. -/
def mergeFrom (pending : List Char) : List Node → Merged
  | [] => ⟨[], pending⟩
  | node :: rest =>
    let first := mergeNode pending node
    let others := mergeFrom first.pending rest
    ⟨first.nodes ++ others.nodes, others.pending⟩

end

/-- Nodes with neighboring pieces of text merged and empty ones left out. -/
def mergeTexts (nodes : List Node) : List Node :=
  (mergeFrom [] nodes).nodes ++ textNodes (mergeFrom [] nodes).pending

theorem mergeFrom_append (pending : List Char) (first second : List Node) :
    mergeFrom pending (first ++ second) =
      ⟨(mergeFrom pending first).nodes ++
          (mergeFrom (mergeFrom pending first).pending second).nodes,
        (mergeFrom (mergeFrom pending first).pending second).pending⟩ := by
  induction first generalizing pending with
  | nil => rfl
  | cons node rest ih =>
      rw [List.cons_append, mergeFrom, mergeFrom, ih]
      simp only [List.append_assoc]

/-! ## Reading tokens -/

namespace Reader

theorem run_append {stack next : List OpenElement} {first : List Token}
    (h : run stack first = some next) (second : List Token) :
    run stack (first ++ second) = run next second := by
  induction first generalizing stack with
  | nil =>
      cases h
      rfl
  | cons token rest ih =>
      obtain ⟨middle, hstep, hrest⟩ := Option.bind_eq_some_iff.mp h
      rw [List.cons_append, run, hstep]
      exact ih hrest

theorem escape_isEmpty (cs : List Char) : (escape cs).isEmpty = cs.isEmpty := by
  cases cs with
  | nil => rfl
  | cons c cs =>
      have hne : escapeChar c ≠ [] := by
        rcases escapeChar_cases c with ⟨name, -, hc⟩ | ⟨hc, -⟩
        · rw [hc]
          exact List.cons_ne_nil _ _
        · rw [hc]
          exact List.cons_ne_nil _ _
      rw [escape_cons, List.isEmpty_cons, List.isEmpty_eq_false_iff]
      exact List.append_ne_nil_of_left_ne_nil hne _

variable (e : OpenElement) (outer : List OpenElement)

theorem run_flush (pending : List Char) :
    run (e :: outer) (flush (escape pending)) =
      some ({ e with children := e.children ++ textNodes pending } :: outer)
      := by
  rw [flush, escape_isEmpty, textNodes]
  cases pending.isEmpty with
  | true => simp [run]
  | false =>
      rw [if_neg Bool.false_ne_true, if_neg Bool.false_ne_true, run, step,
        unescape_escape]
      rfl

mutual

/-- The tokens of a node behind some text add the merged node to the
innermost element. -/
theorem run_nodePieces :
    ∀ (node : Node) (pending : List Char) (e : OpenElement)
      (outer : List OpenElement), node.IsPlain →
      run (e :: outer) (nodePieces (escape pending) node).tokens =
          some ({ e with
            children := e.children ++ (mergeNode pending node).nodes } ::
            outer) ∧
        (nodePieces (escape pending) node).pending =
          escape (mergeNode pending node).pending
  | .text value, pending, e, outer, _ => by
    rw [nodePieces, mergeNode, escape_append]
    simp [run]
  | .element name attributes [], pending, e, outer, h => by
    obtain ⟨htag, -⟩ := Node.isPlain_element.mp h
    have hempty : ∀ e : OpenElement,
        run (e :: outer) [.empty (renderTag name attributes)] =
          some (e.push (.element name attributes []) :: outer) := by
      intro e
      rw [run, step, tag?_renderTag htag]
      rfl
    rw [nodePieces, mergeNode, mergeFrom]
    refine ⟨?_, rfl⟩
    rw [run_append (run_flush e outer pending), hempty]
    simp [OpenElement.push, textNodes]
  | .element name attributes (first :: rest), pending, e, outer, h => by
    obtain ⟨htag, hchildren⟩ := Node.isPlain_element.mp h
    let before : OpenElement :=
      { e with children := e.children ++ textNodes pending }
    let merged := mergeFrom [] (first :: rest)
    have hopening : ∀ tokens, run (before :: outer)
        (.opening (renderTag name attributes) :: tokens) =
        run (⟨name, attributes, []⟩ :: before :: outer) tokens := by
      intro tokens
      rw [run, step, tag?_renderTag htag]
      rfl
    obtain ⟨hinner, hpending⟩ := run_pieces (first :: rest) []
      ⟨name, attributes, []⟩ (before :: outer) hchildren
    have hflush := run_flush ⟨name, attributes, [] ++ merged.nodes⟩
      (before :: outer) merged.pending
    have hclosing : run
        (⟨name, attributes, [] ++ merged.nodes ++ textNodes merged.pending⟩ ::
          before :: outer) [.closing name.toList] =
        some (before.push (.element name attributes
          ([] ++ merged.nodes ++ textNodes merged.pending)) :: outer) := by
      rw [run, step, closingName_toList htag.1, if_pos rfl]
      rfl
    rw [nodePieces, mergeNode]
    refine ⟨?_, rfl⟩
    rw [run_append (run_flush e outer pending), hopening, run_append,
      hclosing]
    · simp [OpenElement.push, before, merged]
    · rw [escape_nil] at hinner hpending
      rw [hpending, run_append hinner, hflush]

/-- The tokens of nodes behind some text add the merged nodes to the
innermost element. -/
theorem run_pieces :
    ∀ (nodes : List Node) (pending : List Char) (e : OpenElement)
      (outer : List OpenElement), Node.AllPlain nodes →
      run (e :: outer) (pieces (escape pending) nodes).tokens =
          some ({ e with
            children := e.children ++ (mergeFrom pending nodes).nodes } ::
            outer) ∧
        (pieces (escape pending) nodes).pending =
          escape (mergeFrom pending nodes).pending
  | [], pending, e, outer, _ => by
    rw [pieces, mergeFrom]
    simp [run]
  | node :: rest, pending, e, outer, h => by
    obtain ⟨hnode, hrest⟩ := Node.allPlain_cons.mp h
    obtain ⟨hfirst, hpending⟩ := run_nodePieces node pending e outer hnode
    obtain ⟨hothers, hlast⟩ := run_pieces rest (mergeNode pending node).pending
      { e with children := e.children ++ (mergeNode pending node).nodes }
      outer hrest
    rw [pieces, mergeFrom, hpending]
    refine ⟨?_, hlast⟩
    rw [run_append hfirst, hothers, List.append_assoc]

end

/-- What is read from nodes on one line are the nodes with merged text. -/
theorem nodes?_renderCompact {nodes : List Node}
    (hplain : Node.AllPlain nodes) :
    nodes? (renderCompact nodes) = some (mergeTexts nodes) := by
  obtain ⟨hnodes, hpending⟩ := run_pieces nodes [] ⟨"", [], []⟩ [] hplain
  have hrun : run [⟨"", [], []⟩] ((pieces [] nodes).tokens ++
      flush (pieces [] nodes).pending) =
      some [⟨"", [], mergeTexts nodes⟩] := by
    rw [escape_nil] at hnodes hpending
    rw [run_append hnodes, hpending, run_flush]
    rfl
  rw [nodes?, split_renderCompact hplain]
  simp only
  rw [hrun]

/-- The declaration adds nothing to what is read. -/
theorem nodes?_declaration {encoding : String}
    (hencoding : '>' ∉ encoding.toList) (cs : List Char) :
    nodes? (renderDeclaration encoding ++ cs) = nodes? cs := by
  rw [nodes?, split_declaration hencoding, nodes?]
  rfl

/-- What is read from a document are its nodes with merged text. -/
theorem nodes?_renderDocument (l : Layout) {encoding : String}
    (hencoding : '>' ∉ encoding.toList) {root : Node}
    (hplain : root.IsPlain) :
    nodes? (renderDocument l encoding root) =
      some (mergeTexts (documentNodes l root)) := by
  rw [renderDocument_eq, nodes?_declaration hencoding,
    nodes?_renderCompact (allPlain_documentNodes hplain l)]

end Reader

end Markup

/-! ## Trees without text -/

namespace Node

mutual

/-- A node without the text in its elements. -/
def bare : Node → Node
  | .text value => .text value
  | .element name attributes children =>
    .element name attributes (bareAll children)

/-- The elements among some nodes, without the text in them. -/
def bareAll : List Node → List Node
  | [] => []
  | node :: rest =>
    if node.isElement then bare node :: bareAll rest else bareAll rest

end

theorem bareAll_append (first second : List Node) :
    bareAll (first ++ second) = bareAll first ++ bareAll second := by
  induction first with
  | nil => rfl
  | cons node rest ih =>
      rw [List.cons_append, bareAll, bareAll, ih]
      split <;> rfl

theorem bareAll_cons (node : Node) (rest : List Node) :
    bareAll (node :: rest) = bareAll [node] ++ bareAll rest :=
  bareAll_append [node] rest

theorem bareAll_element (name : String) (attributes : List (String × String))
    (children : List Node) :
    bareAll [.element name attributes children] =
      [.element name attributes (bareAll children)] := by
  rw [bareAll, bare]
  rfl

end Node

namespace Markup

open Node

theorem bareAll_textNodes (pending : List Char) :
    bareAll (textNodes pending) = [] := by
  rw [textNodes]
  split <;> rfl

theorem bareAll_gapNodes (l : Layout) (breaks : Bool) (depth : Nat) :
    bareAll (l.gapNodes breaks depth) = [] := by
  rw [Layout.gapNodes]
  split <;> rfl

mutual

theorem bareAll_mergeNode :
    ∀ (node : Node) (pending : List Char),
      bareAll (mergeNode pending node).nodes = bareAll [node]
  | .text value, pending => by
    rw [mergeNode]
    rfl
  | .element name attributes children, pending => by
    rw [mergeNode]
    simp only [bareAll_append, bareAll_textNodes, bareAll_element,
      bareAll_mergeFrom children [], List.nil_append, List.append_nil]

/-- Merging text leaves the elements alone. -/
theorem bareAll_mergeFrom :
    ∀ (nodes : List Node) (pending : List Char),
      bareAll (mergeFrom pending nodes).nodes = bareAll nodes
  | [], pending => by
    rw [mergeFrom]
  | node :: rest, pending => by
    rw [mergeFrom, bareAll_append, bareAll_mergeNode node pending,
      bareAll_mergeFrom rest, ← bareAll_cons]

end

mutual

theorem bareAll_arrange (l : Layout) (depth : Nat) :
    ∀ node : Node, bareAll [arrange l depth node] = bareAll [node]
  | .text value => by
    rw [arrange]
  | .element name attributes [] => by
    rw [arrange]
  | .element name attributes (first :: rest) => by
    rw [arrange, bareAll_element, bareAll_append, bareAll_gapNodes,
      bareAll_arrangeAll l (depth + 1) true (first :: rest), List.append_nil,
      bareAll_element]

/-- Arranging leaves the elements alone. -/
theorem bareAll_arrangeAll (l : Layout) (depth : Nat) (breaks : Bool) :
    ∀ nodes : List Node,
      bareAll (arrangeAll l depth breaks nodes) = bareAll nodes
  | [] => by
    rw [arrangeAll]
  | node :: rest => by
    have hgap : bareAll
        (if node.isElement then l.gapNodes breaks depth else []) = [] := by
      split
      · exact bareAll_gapNodes l breaks depth
      · rfl
    rw [arrangeAll, bareAll_append, hgap, List.nil_append, bareAll_cons,
      bareAll_arrange l depth node,
      bareAll_arrangeAll l depth node.isElement rest, ← bareAll_cons]

end

theorem bareAll_documentNodes (l : Layout) (root : Node) :
    bareAll (mergeTexts (documentNodes l root)) = bareAll [root] := by
  have hending : bareAll l.endingNodes = [] := by
    rw [Layout.endingNodes]
    split <;> rfl
  rw [mergeTexts, bareAll_append, bareAll_textNodes, bareAll_mergeFrom,
    documentNodes, bareAll_append, bareAll_arrangeAll, hending,
    List.append_nil, List.append_nil]

/-- The document element that is read from a text, without the text in it. -/
def Reader.elementTree? (cs : List Char) : Option Node :=
  (nodes? cs).bind fun nodes =>
    match bareAll nodes with
    | [root] => some root
    | _ => none

/-- The element tree of a plain document is read back from every layout. -/
theorem Reader.elementTree?_renderDocument (l : Layout) {encoding : String}
    (hencoding : '>' ∉ encoding.toList) {root : Node}
    (hroot : root.isElement = true) (hplain : root.IsPlain) :
    elementTree? (renderDocument l encoding root) = some root.bare := by
  rw [elementTree?, nodes?_renderDocument l hencoding hplain,
    Option.bind_some, bareAll_documentNodes, bareAll, if_pos hroot]
  rfl

end Markup

end CityMarkup
