import CityMarkup.Proofs.Encoding.Documents
import CityMarkup.Proofs.Markup.RoundTrip

/-!
# Reading documents on one line

Nothing is put between the tags of a document on one line, so reading it gives
back the tree it was written from, except that the pieces into which a text
was cut cannot be told apart.  Trees that differ in this way only have the
same form with merged text.  An element is written with a single tag if and
only if nothing at all was put into it, be it an empty piece of text.
-/

namespace CityMarkup

open Markup

/-! ## Text in pieces -/

/-- Nodes that differ at most in the pieces into which text is cut: neighboring
pieces of text may be one piece, and empty pieces may be missing. -/
inductive SameText : List Node → List Node → Prop where
  | refl (nodes : List Node) : SameText nodes nodes
  | symm {first second : List Node} (h : SameText first second) :
      SameText second first
  | trans {first second third : List Node} (h : SameText first second)
      (h' : SameText second third) : SameText first third
  | merge (a b : String) :
      SameText [.text a, .text b] [.text (a ++ b)]
  | drop : SameText [.text ""] []
  | append {first second rest rest' : List Node} (h : SameText first second)
      (h' : SameText rest rest') : SameText (first ++ rest) (second ++ rest')
  | element (name : String) (attributes : List (String × String))
      {first second : List Node} (h : SameText first second) :
      SameText [.element name attributes first]
        [.element name attributes second]

namespace Markup

theorem mergeFrom_text (pending : List Char) (value : String) :
    mergeFrom pending [.text value] = ⟨[], pending ++ value.toList⟩ := by
  rw [mergeFrom, mergeNode, mergeFrom]
  rfl

/-- How a text is cut does not matter behind any text. -/
theorem mergeFrom_eq_of_sameText {first second : List Node}
    (h : SameText first second) (pending : List Char) :
    mergeFrom pending first = mergeFrom pending second := by
  induction h generalizing pending with
  | refl nodes => rfl
  | symm h ih => exact (ih pending).symm
  | trans h h' ih ih' => exact (ih pending).trans (ih' pending)
  | merge a b =>
      have hcons : [Node.text a, .text b] = [.text a] ++ [.text b] := rfl
      rw [hcons, mergeFrom_append, mergeFrom_text, mergeFrom_text,
        mergeFrom_text, String.toList_append, List.append_assoc]
      rfl
  | drop =>
      rw [mergeFrom_text, mergeFrom, String.toList_empty, List.append_nil]
  | append h h' ih ih' =>
      rw [mergeFrom_append, mergeFrom_append, ih pending, ih']
  | element name attributes h ih =>
      simp only [mergeFrom, mergeNode, ih []]

/-! ### Merging changes the pieces only -/

theorem sameText_textNodes (pending : List Char) :
    SameText [.text (String.ofList pending)] (textNodes pending) := by
  cases pending with
  | nil => exact .drop
  | cons c cs => exact .refl _

mutual

/-- A node behind some text differs from the merged one, with the text that is
left, in the pieces of text only. -/
theorem sameText_mergeNode :
    ∀ (node : Node) (pending : List Char),
      SameText (textNodes pending ++ [node])
        ((mergeNode pending node).nodes ++
          textNodes (mergeNode pending node).pending)
  | .text value, pending => by
    have hmerge := SameText.merge (String.ofList pending) value
    have htext : String.ofList pending ++ value =
        String.ofList (pending ++ value.toList) := by
      rw [String.ofList_append, String.ofList_toList]
    rw [htext] at hmerge
    rw [mergeNode, List.nil_append]
    have hcut := (sameText_textNodes pending).symm.append
      (.refl [.text value])
    exact hcut.trans (hmerge.trans (sameText_textNodes _))
  | .element name attributes children, pending => by
    have hinner := sameText_mergeFrom children []
    rw [mergeNode]
    simp only [textNodes, List.isEmpty_nil, if_true, List.append_nil,
      List.nil_append] at hinner ⊢
    exact (SameText.refl _).append (.element name attributes hinner)

/-- Nodes behind some text differ from the merged ones, with the text that is
left, in the pieces of text only. -/
theorem sameText_mergeFrom :
    ∀ (nodes : List Node) (pending : List Char),
      SameText (textNodes pending ++ nodes)
        ((mergeFrom pending nodes).nodes ++
          textNodes (mergeFrom pending nodes).pending)
  | [], pending => by
    rw [mergeFrom, List.append_nil]
    exact .refl _
  | node :: rest, pending => by
    have hfirst := (sameText_mergeNode node pending).append (.refl rest)
    have hrest := (SameText.refl (mergeNode pending node).nodes).append
      (sameText_mergeFrom rest (mergeNode pending node).pending)
    rw [mergeFrom]
    simp only [List.append_assoc, List.singleton_append] at hfirst hrest ⊢
    exact hfirst.trans hrest

end

theorem sameText_mergeTexts (nodes : List Node) :
    SameText nodes (mergeTexts nodes) :=
  sameText_mergeFrom nodes []

/-- Nodes have the same text in the same places if and only if merging makes
them equal. -/
theorem mergeTexts_eq_iff {first second : List Node} :
    mergeTexts first = mergeTexts second ↔ SameText first second := by
  constructor
  · intro h
    have hsecond := (sameText_mergeTexts second).symm
    rw [← h] at hsecond
    exact (sameText_mergeTexts first).trans hsecond
  · intro h
    rw [mergeTexts, mergeTexts, mergeFrom_eq_of_sameText h]

theorem mergeTexts_element (name : String)
    (attributes : List (String × String)) (children : List Node) :
    mergeTexts [.element name attributes children] =
      [.element name attributes (mergeTexts children)] := by
  rw [mergeTexts, mergeFrom, mergeNode, mergeFrom]
  simp [textNodes, mergeTexts]

end Markup

/-! ## Single tags -/

/-- The name and the attributes with which an element starts, and whether it
ends with the same tag. -/
structure Start where
  name : String
  attributes : List (String × String)
  closed : Bool
deriving DecidableEq, Repr

mutual

/-- The starts of the elements of a node, in their order.  An element is closed
at once if nothing was put into it. -/
def Node.starts : Node → List Start
  | .text _ => []
  | .element name attributes children =>
    ⟨name, attributes, children.isEmpty⟩ :: Node.allStarts children

/-- The starts of the elements of some nodes, in their order. -/
def Node.allStarts : List Node → List Start
  | [] => []
  | node :: rest => node.starts ++ Node.allStarts rest

end

namespace Markup

/-- The start of an element that a token is read as, if it is one. -/
def Token.start? : Token → Option Start
  | .opening raw =>
    (Reader.tag? raw).map fun tag => ⟨tag.1, tag.2, false⟩
  | .empty raw =>
    (Reader.tag? raw).map fun tag => ⟨tag.1, tag.2, true⟩
  | .text _ | .closing _ | .aside => none

/-- The starts of elements that are read from a text, in their order. -/
def Reader.starts (cs : List Char) : List Start :=
  (split cs).tokens.filterMap Token.start?

theorem starts_flush (pending : List Char) :
    (flush pending).filterMap Token.start? = [] := by
  rw [flush]
  split <;> rfl

mutual

theorem starts_nodePieces :
    ∀ (node : Node) (pending : List Char), node.IsPlain →
      (nodePieces pending node).tokens.filterMap Token.start? = node.starts
  | .text value, pending, _ => by
    rw [nodePieces, Node.starts]
    rfl
  | .element name attributes [], pending, h => by
    obtain ⟨htag, -⟩ := Node.isPlain_element.mp h
    rw [nodePieces, Node.starts, Node.allStarts, List.filterMap_append,
      starts_flush, List.nil_append, List.filterMap_cons, Token.start?,
      Reader.tag?_renderTag htag]
    rfl
  | .element name attributes (first :: rest), pending, h => by
    obtain ⟨htag, hchildren⟩ := Node.isPlain_element.mp h
    have hinner := starts_pieces (first :: rest) [] hchildren
    have hclosing : [Token.closing name.toList].filterMap Token.start? = [] :=
      rfl
    rw [nodePieces, Node.starts, List.filterMap_append, starts_flush,
      List.nil_append, List.filterMap_cons, Token.start?,
      Reader.tag?_renderTag htag]
    simp only [Option.map_some, List.filterMap_append, hinner, starts_flush,
      hclosing, List.append_nil, List.isEmpty_cons]

/-- The tags that start elements come in the order of the elements. -/
theorem starts_pieces :
    ∀ (nodes : List Node) (pending : List Char), Node.AllPlain nodes →
      (pieces pending nodes).tokens.filterMap Token.start? =
        Node.allStarts nodes
  | [], pending, _ => by
    rw [pieces, Node.allStarts]
    rfl
  | node :: rest, pending, h => by
    obtain ⟨hnode, hrest⟩ := Node.allPlain_cons.mp h
    rw [pieces, Node.allStarts, List.filterMap_append,
      starts_nodePieces node pending hnode, starts_pieces rest _ hrest]

end

theorem Reader.starts_renderCompact {nodes : List Node}
    (hplain : Node.AllPlain nodes) :
    starts (renderCompact nodes) = Node.allStarts nodes := by
  rw [starts, split_renderCompact hplain, List.filterMap_append,
    starts_pieces nodes [] hplain, starts_flush, List.append_nil]

theorem Reader.starts_declaration {encoding : String}
    (hencoding : '>' ∉ encoding.toList) (cs : List Char) :
    starts (renderDeclaration encoding ++ cs) = starts cs := by
  rw [starts, split_declaration hencoding]
  rfl

end Markup

/-! ## Whole documents -/

/-- Reading a text gives back an element: its name, its attributes, and what
was put into it up to the pieces of text.  The text has single tags where
nothing was put into an element. -/
structure OpenElement.ReadsBack (root : OpenElement) (text : List Char) :
    Prop where
  tree : ∃ children,
    Reader.nodes? text = some [.element root.name root.attributes children] ∧
      SameText root.children children
  starts : Reader.starts text = root.toNode.starts

variable {root : OpenElement}

theorem OpenElement.allPlain_toNode (hplain : root.toNode.IsPlain) :
    Node.AllPlain [root.toNode] :=
  Node.allPlain_cons.mpr ⟨hplain, fun _ hmem => nomatch hmem⟩

theorem OpenElement.readsBack_renderCompact (hplain : root.toNode.IsPlain) :
    root.ReadsBack (renderCompact [root.toNode]) := by
  have hall := allPlain_toNode hplain
  constructor
  · refine ⟨mergeTexts root.children, ?_, sameText_mergeTexts _⟩
    rw [Reader.nodes?_renderCompact hall, toNode, mergeTexts_element]
  · rw [Reader.starts_renderCompact hall, Node.allStarts, Node.allStarts,
      List.append_nil]

theorem OpenElement.ReadsBack.declaration {cs : List Char}
    (h : root.ReadsBack cs) {encoding : String}
    (hencoding : '>' ∉ encoding.toList) :
    root.ReadsBack (renderDeclaration encoding ++ cs) := by
  constructor
  · rw [Reader.nodes?_declaration hencoding]
    exact h.tree
  · rw [Reader.starts_declaration hencoding]
    exact h.starts

theorem Builder.renderRoot_compact {s : Settings}
    (hcompact : s.prettyPrint = false) :
    renderRoot s root =
      renderDeclaration s.encoding ++ renderCompact [root.toNode] := by
  have hlayout : s.layout = .compact := by
    rw [Settings.layout, hcompact]
    rfl
  rw [renderRoot, hlayout, renderDocument, renderCompact_cons,
    List.append_assoc]
  rfl

/-- A document on one line with plain names, as all names in XML are, is the
declaration with the element tree behind it, and the tree can be read back from
what stands behind the declaration.  Unless the name of the encoding ends the
declaration early, the document is handed out, and the tree can be read back
from the whole of it.  Two documents are read as the same if and only if they
differ at most in the pieces into which text is cut. -/
theorem Builder.renderRoot_readsBack {s : Settings}
    (hcompact : s.prettyPrint = false) (hplain : root.toNode.IsPlain) :
    renderRoot s root =
        renderDeclaration s.encoding ++ renderCompact [root.toNode] ∧
      root.ReadsBack (renderCompact [root.toNode]) ∧
      ('>' ∉ s.encoding.toList → root.ReadsBack (renderRoot s root) ∧
        render.run ⟨s, [root], none⟩ =
          ⟨.ok (String.ofList (renderRoot s root)), ⟨s, [root], none⟩, []⟩) ∧
      ∀ other : OpenElement, other.toNode.IsPlain →
        (Reader.nodes? (renderCompact [other.toNode]) =
            Reader.nodes? (renderCompact [root.toNode]) ↔
          SameText [other.toNode] [root.toNode]) := by
  have hread := OpenElement.readsBack_renderCompact hplain
  refine ⟨renderRoot_compact hcompact, hread, fun hencoding => ⟨?_, ?_⟩, ?_⟩
  · rw [renderRoot_compact hcompact]
    exact hread.declaration hencoding
  · exact run_render_closed
      (checkWellFormed_renderDocument s.layout hencoding rfl hplain)
  · intro other hother
    rw [Reader.nodes?_renderCompact (OpenElement.allPlain_toNode hother),
      Reader.nodes?_renderCompact (OpenElement.allPlain_toNode hplain),
      Option.some_inj, mergeTexts_eq_iff]

/-- Settings for one line, with the check before a document is handed out. -/
def onOneLine : Settings :=
  { Settings.initial with prettyPrint := false, validates := true }

/-- An element with text that looks like markup, and with an empty piece of
text in one of the elements in it. -/
def sign : OpenElement where
  name := "sign"
  attributes := [("note", "1 < 2 & '3' > \"0\"")]
  children :=
    [.text "&lt;", .text "]]>", .text "", .element "post" [] [], .text " ",
      .element "größe" [] [.text ""]]

theorem Builder.renderRoot_readsBack_sign :
    onOneLine.prettyPrint = false ∧ sign.toNode.IsPlain ∧
      sign.ReadsBack (renderRoot onOneLine sign) ∧
      Reader.starts (renderRoot onOneLine sign) =
        [⟨"sign", sign.attributes, false⟩, ⟨"post", [], true⟩,
          ⟨"größe", [], false⟩] := by
  have hcompact : onOneLine.prettyPrint = false := rfl
  have hplain : sign.toNode.IsPlain :=
    Node.isPlain_of_isXmlName (by decide +kernel)
  have hencoding : '>' ∉ onOneLine.encoding.toList := by decide
  obtain ⟨-, -, hwhole, -⟩ := renderRoot_readsBack hcompact hplain
  have hread := (hwhole hencoding).1
  exact ⟨hcompact, hplain, hread, hread.starts⟩

end CityMarkup
