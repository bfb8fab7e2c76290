import CityMarkup.Markup.WellFormed
import CityMarkup.Proofs.Markup.Tokens
import CityMarkup.Text.Utf8.RoundTrip

/-!
# Written documents are well formed

The tokens of a node open and close its elements in pairs, so that they leave
the nesting as they find it.  A whole document with a plain element tree in it
passes every check, in every layout.
-/

namespace CityMarkup

/-- What comes after the last tag, as a piece of text if there is any. -/
def Layout.endingNodes (l : Layout) : List Node :=
  if l.ending.isEmpty then [] else [.text (String.ofList l.ending)]

namespace Markup

/-- The document element and the line breaks around it. -/
def documentNodes (l : Layout) (root : Node) : List Node :=
  arrangeAll l 0 true [root] ++ l.endingNodes

/-! ## Nesting -/

namespace Nesting

/-- The nesting after some nodes, each of which is closed again. -/
def after (n : Nesting) (nodes : List Node) : Nesting :=
  nodes.foldl (fun n node => if node.isElement then n.begin else n) n

theorem after_of_ne {n : Nesting} (h : n.names ≠ []) (nodes : List Node) :
    n.after nodes = n := by
  have hbegin : n.begin = n := by
    rw [begin, if_neg]
    simpa using h
  induction nodes with
  | nil => rfl
  | cons node rest ih =>
      rw [after, List.foldl_cons, hbegin, ite_self]
      exact ih

theorem names_begin (n : Nesting) : n.begin.names = n.names := by
  rw [begin]
  split <;> rfl

theorem run_append {n next : Nesting} {first : List Token}
    (h : n.run first = .ok next) (second : List Token) :
    n.run (first ++ second) = next.run second := by
  induction first generalizing n with
  | nil =>
      cases h
      rfl
  | cons token rest ih =>
      rw [run] at h
      rw [List.cons_append, run]
      cases hstep : n.step token with
      | error fault =>
          rw [hstep] at h
          cases h
      | ok middle =>
          rw [hstep] at h
          exact ih h

theorem run_flush (n : Nesting) (pending : List Char) :
    n.run (flush pending) = .ok n := by
  rw [flush]
  split <;> rfl

end Nesting

theorem openingName_renderTag {name : String} (h : IsName name)
    (attributes : List (String × String)) :
    openingName (renderTag name attributes) = name.toList := by
  have hname : ∀ c ∈ name.toList, (!isBlank c) = true := by
    intro c hc
    rw [h.isBlank_eq_false hc]
    rfl
  have hrest : (attributes.flatMap renderAttribute).takeWhile
      (fun c => !isBlank c) = [] := by
    cases attributes with
    | nil => rfl
    | cons a rest => rfl
  rw [openingName, renderTag, List.takeWhile_append_of_pos hname, hrest,
    List.append_nil]

theorem closingName_toList {name : String} (h : IsName name) :
    closingName name.toList = name.toList := by
  obtain ⟨cs, c, hcs⟩ :=
    List.eq_nil_or_concat name.toList |>.resolve_left h.nonempty
  have hmem : c ∈ name.toList := by simp [hcs]
  have hblank := h.isBlank_eq_false hmem
  rw [closingName, hcs]
  simp [hblank]

mutual

/-- The tokens of a node begin an element if the node is one, and close all
that they begin. -/
theorem run_nodePieces :
    ∀ (node : Node) (pending : List Char) (n : Nesting), node.IsPlain →
      n.run (nodePieces pending node).tokens = .ok (n.after [node])
  | .text value, pending, n, _ => by
    rw [nodePieces]
    rfl
  | .element name attributes [], pending, n, _ => by
    rw [nodePieces, Nesting.run_append (n.run_flush pending)]
    rfl
  | .element name attributes (first :: rest), pending, n, h => by
    obtain ⟨htag, hchildren⟩ := Node.isPlain_element.mp h
    let inside : Nesting := ⟨name.toList :: n.begin.names, n.begin.roots⟩
    have hopening : n.step (.opening (renderTag name attributes)) =
        .ok inside := by
      rw [Nesting.step, openingName_renderTag htag.1, ← n.names_begin]
    have hinner := run_pieces (first :: rest) [] inside hchildren
    rw [inside.after_of_ne (List.cons_ne_nil _ _)] at hinner
    have hclosing : inside.run [.closing name.toList] = .ok n.begin := by
      rw [Nesting.run, Nesting.step, closingName_toList htag.1]
      simp only [inside, if_true]
      rfl
    rw [nodePieces, Nesting.run_append (n.run_flush pending), Nesting.run,
      hopening]
    simp only
    rw [Nesting.run_append, hclosing]
    · rfl
    · rw [Nesting.run_append hinner, inside.run_flush]

/-- The tokens of some nodes begin and close an element for each of them. -/
theorem run_pieces :
    ∀ (nodes : List Node) (pending : List Char) (n : Nesting),
      Node.AllPlain nodes →
      n.run (pieces pending nodes).tokens = .ok (n.after nodes)
  | [], pending, n, _ => by
    rw [pieces]
    rfl
  | node :: rest, pending, n, h => by
    obtain ⟨hnode, hrest⟩ := Node.allPlain_cons.mp h
    rw [pieces, Nesting.run_append (run_nodePieces node pending n hnode),
      run_pieces rest _ _ hrest]
    rfl

end

/-! ## Whole documents -/

theorem renderCompact_endingNodes (l : Layout) :
    renderCompact l.endingNodes = l.ending := by
  cases l with
  | compact => rfl
  | indented width =>
      change renderCompact [.text (String.ofList ['\n'])] = ['\n']
      rw [renderCompact_cons, renderNode_text, String.toList_ofList]
      rfl

theorem renderDocument_eq (l : Layout) (encoding : String) (root : Node) :
    renderDocument l encoding root =
      renderDeclaration encoding ++ renderCompact (documentNodes l root) := by
  have hroot : renderNode l 0 true root = renderNodes l 0 true [root] := by
    rw [renderNodes, renderNodes, List.append_nil]
  rw [renderDocument, documentNodes, renderCompact_append,
    renderCompact_endingNodes, hroot, renderNodes_eq_arrange,
    List.append_assoc]

theorem allElements_documentNodes (l : Layout) (root : Node) :
    Node.allElements (documentNodes l root) = root.elements := by
  have hending : Node.allElements l.endingNodes = [] := by
    rw [Layout.endingNodes]
    split <;> rfl
  rw [documentNodes, Node.allElements_append, allElements_arrangeAll, hending,
    Node.allElements, Node.allElements, List.append_nil, List.append_nil]

theorem allPlain_documentNodes {root : Node} (h : root.IsPlain)
    (l : Layout) : Node.AllPlain (documentNodes l root) := by
  intro tag htag
  rw [allElements_documentNodes] at htag
  exact h tag htag

/-- What stands between the question marks of a declaration. -/
def declarationBody (encoding : String) : List Char :=
  "xml version=\"1.0\" encoding=\"".toList ++ encoding.toList ++ ['"']

theorem renderDeclaration_eq (encoding : String) :
    renderDeclaration encoding =
      '<' :: '?' :: (declarationBody encoding ++ ['?', '>']) := by
  have hstart : "<?xml version=\"1.0\" encoding=\"".toList =
      '<' :: '?' :: "xml version=\"1.0\" encoding=\"".toList := by
    decide +kernel
  have hend : "\"?>".toList = ['"', '?', '>'] := by decide +kernel
  unfold renderDeclaration declarationBody
  rw [hstart, hend]
  simp only [List.cons_append, List.append_assoc, List.nil_append]

theorem splitFrom_instruction {cs : List Char} (h : '>' ∉ cs)
    (seen rest : List Char) :
    splitFrom (.instruction seen) (cs ++ rest) =
      splitFrom (.instruction (cs.reverse ++ seen)) rest := by
  induction cs generalizing seen with
  | nil => rfl
  | cons c cs ih =>
      rw [List.mem_cons, not_or] at h
      have hstep : (Mode.instruction seen).step c =
          .ok (.instruction (c :: seen), none) := by
        simp [Mode.step, Ne.symm h.1]
      rw [List.cons_append, splitFrom_silent hstep, ih h.2]
      simp

/-- The declaration is set apart, whatever comes behind it. -/
theorem splitFrom_declaration {encoding : String}
    (h : '>' ∉ encoding.toList) (rest : List Char) :
    splitFrom (.text []) (renderDeclaration encoding ++ rest) =
      .prependAll [.aside] (splitFrom (.text []) rest) := by
  have hbody : '>' ∉ declarationBody encoding := by
    unfold declarationBody
    rw [List.mem_append, List.mem_append, not_or, not_or]
    exact ⟨⟨by decide +kernel, h⟩, by decide⟩
  have hopen : (Mode.text []).step '<' = .ok (.markup, none) := rfl
  have hquestion : Mode.step .markup '?' = .ok (.instruction [], none) := rfl
  have hlast : ∀ seen, (Mode.instruction seen).step '?' =
      .ok (.instruction ('?' :: seen), none) := fun _ => rfl
  have hclose : ∀ seen, (Mode.instruction ('?' :: seen)).step '>' =
      .ok (.text [], some .aside) := fun _ => rfl
  rw [renderDeclaration_eq, List.cons_append, List.cons_append,
    List.append_assoc, splitFrom_silent hopen, splitFrom_silent hquestion,
    splitFrom_instruction hbody, List.cons_append, splitFrom_silent (hlast _),
    List.singleton_append, splitFrom_cons (hclose _)]
  rfl

theorem split_declaration {encoding : String}
    (hencoding : '>' ∉ encoding.toList) (cs : List Char) :
    split (renderDeclaration encoding ++ cs) =
      .prependAll [.aside] (split cs) :=
  splitFrom_declaration hencoding cs

/-- The tokens of nodes on one line. -/
theorem split_renderCompact {nodes : List Node}
    (hplain : Node.AllPlain nodes) :
    split (renderCompact nodes) =
      ⟨(pieces [] nodes).tokens ++ flush (pieces [] nodes).pending, none⟩ := by
  let found := pieces [] nodes
  have hnodes := splitFrom_renderCompact nodes [] [] hplain
  have hend : splitFrom (.text found.pending.reverse) [] =
      ⟨flush found.pending, none⟩ := by
    rw [splitFrom, Mode.finish, Mode.textToken, flush, List.isEmpty_reverse,
      List.reverse_reverse]
    cases found.pending.isEmpty <;> rfl
  rw [List.append_nil, hend, List.reverse_nil] at hnodes
  exact hnodes

/-- The tokens of a document: its declaration, and those of its nodes. -/
theorem split_renderDocument (l : Layout) {encoding : String}
    (hencoding : '>' ∉ encoding.toList) {root : Node}
    (hplain : root.IsPlain) :
    split (renderDocument l encoding root) =
      ⟨.aside :: ((pieces [] (documentNodes l root)).tokens ++
        flush (pieces [] (documentNodes l root)).pending), none⟩ := by
  rw [renderDocument_eq, split_declaration hencoding,
    split_renderCompact (allPlain_documentNodes hplain l)]
  rfl

theorem after_documentNodes (l : Layout) {root : Node}
    (hroot : root.isElement = true) :
    Nesting.after ⟨[], 0⟩ (documentNodes l root) = ⟨[], 1⟩ := by
  obtain ⟨name, attributes, children⟩ | value := root
  · have hgap : Nesting.after ⟨[], 0⟩ (l.gapNodes true 0) = ⟨[], 0⟩ := by
      rw [Layout.gapNodes]
      split <;> rfl
    have hending : Nesting.after ⟨[], 1⟩ l.endingNodes = ⟨[], 1⟩ := by
      rw [Layout.endingNodes]
      split <;> rfl
    have harranged : (arrange l 0 (.element name attributes children)).isElement
        = true := by
      cases children <;> rw [arrange] <;> rfl
    rw [Nesting.after] at hgap hending
    rw [documentNodes, arrangeAll, arrangeAll, hroot, if_pos rfl,
      Nesting.after, List.foldl_append, List.foldl_append, hgap,
      List.foldl_cons, harranged]
    exact hending
  · cases hroot

/-- A document passes the check if its names are plain and the name of its
encoding does not end the declaration. -/
theorem checkWellFormed_renderDocument (l : Layout) {encoding : String}
    (hencoding : '>' ∉ encoding.toList) {root : Node}
    (hroot : root.isElement = true) (hplain : root.IsPlain) :
    checkWellFormed (Utf8.encode (renderDocument l encoding root)) =
      .ok () := by
  let nodes := documentNodes l root
  have hmark : dropByteOrderMark (renderDocument l encoding root) =
      renderDocument l encoding root := by
    rw [renderDocument_eq, renderDeclaration_eq]
    rfl
  have hnodes := run_pieces nodes [] ⟨[], 0⟩
    (allPlain_documentNodes hplain l)
  rw [after_documentNodes l hroot] at hnodes
  have hrun : Nesting.run ⟨[], 0⟩ (.aside :: ((pieces [] nodes).tokens ++
      flush (pieces [] nodes).pending)) = .ok ⟨[], 1⟩ := by
    rw [Nesting.run, Nesting.step]
    simp only
    rw [Nesting.run_append hnodes, Nesting.run_flush]
  rw [checkWellFormed, Utf8.decode_encode]
  simp only
  rw [checkText, hmark, split_renderDocument l hencoding hplain]
  simp only
  rw [hrun]
  rfl

end Markup

end CityMarkup
