import CityMarkup.Proofs.Markup.Arrangement

/-!
# The tokens of a written document

Splitting a plain tree that was written on one line gives one token for each
tag and one for each run of text between tags.  Escaped characters never end a
text or a quoted value, so this holds for all values and texts.  What follows
the written nodes is split as if it stood behind the text that they end with.
-/

namespace CityMarkup

namespace Markup

/-- Puts tokens in front of others. -/
def Tokens.prependAll (tokens : List Token) (rest : Tokens) : Tokens :=
  { rest with tokens := tokens ++ rest.tokens }

theorem Tokens.prependAll_nil (rest : Tokens) :
    Tokens.prependAll [] rest = rest := rfl

theorem Tokens.prependAll_append (first second : List Token)
    (rest : Tokens) :
    Tokens.prependAll (first ++ second) rest =
      .prependAll first (.prependAll second rest) := by
  simp [prependAll]

/-- The token of the text so far, if there is any. -/
def flush (pending : List Char) : List Token :=
  if pending.isEmpty then [] else [.text pending]

/-- The tokens of some nodes, and the text after the last of them. -/
structure Pieces where
  tokens : List Token
  pending : List Char

mutual

/-- The tokens of a node that stands behind some text. -/
def nodePieces (pending : List Char) : Node → Pieces
  | .text value => ⟨[], pending ++ escape value.toList⟩
  | .element name attributes children =>
    match children with
    | [] => ⟨flush pending ++ [.empty (renderTag name attributes)], []⟩
    | first :: rest =>
      let inner := pieces [] (first :: rest)
      ⟨flush pending ++ .opening (renderTag name attributes) ::
        (inner.tokens ++ flush inner.pending ++ [.closing name.toList]), []⟩

/-- The tokens of nodes that stand behind some text. -/
def pieces (pending : List Char) : List Node → Pieces
  | [] => ⟨[], pending⟩
  | node :: rest =>
    let first := nodePieces pending node
    let others := pieces first.pending rest
    ⟨first.tokens ++ others.tokens, others.pending⟩

end

/-! ## Text -/

theorem splitFrom_cons {m next : Mode} {c : Char} {token : Option Token}
    (h : m.step c = .ok (next, token)) (rest : List Char) :
    splitFrom m (c :: rest) = .prepend token (splitFrom next rest) := by
  rw [splitFrom, h]

theorem splitFrom_silent {m next : Mode} {c : Char}
    (h : m.step c = .ok (next, none)) (rest : List Char) :
    splitFrom m (c :: rest) = splitFrom next rest :=
  splitFrom_cons h rest

/-- A reference is read as the characters that it is written with. -/
theorem splitFrom_reference (seen rest : List Char) {name : List Char}
    (h : name.all Char.isAlpha = true) :
    splitFrom (.reference seen) (name ++ ';' :: rest) =
      splitFrom (.text (';' :: name.reverse ++ seen)) rest := by
  induction name generalizing seen with
  | nil => exact splitFrom_silent rfl rest
  | cons c name ih =>
      rw [List.all_cons, Bool.and_eq_true] at h
      obtain ⟨halpha, hname⟩ := h
      have hne : ∀ d : Char, d.isAlpha = false → c ≠ d := by
        rintro d hd rfl
        rw [halpha] at hd
        cases hd
      have hstep : (Mode.reference seen).step c =
          .ok (.reference (c :: seen), none) := by
        simp [Mode.step, hne ';' rfl, hne '&' rfl, hne '<' rfl]
      rw [List.cons_append, splitFrom_silent hstep, ih (c :: seen) hname]
      simp

/-- The names of the five references, and what they stand for. -/
def references : List (List Char × Char) :=
  [("lt".toList, '<'), ("gt".toList, '>'), ("amp".toList, '&'),
    ("apos".toList, '\''), ("quot".toList, '"')]

theorem isAlpha_of_mem_references {name : List Char} {c : Char}
    (h : (name, c) ∈ references) : name.all Char.isAlpha = true := by
  have key : (references.map Prod.fst).all (·.all Char.isAlpha) = true := rfl
  exact List.all_eq_true.mp key name (List.mem_map_of_mem h)

/-- The written form of a character is a reference or the character. -/
theorem escapeChar_cases (c : Char) :
    (∃ name, (name, c) ∈ references ∧
      escapeChar c = '&' :: (name ++ [';'])) ∨
      (escapeChar c = [c] ∧ c ≠ '<' ∧ c ≠ '&' ∧ c ≠ '"') := by
  by_cases hreference : ∃ name, (name, c) ∈ references
  · obtain ⟨name, hname⟩ := hreference
    refine Or.inl ⟨name, hname, ?_⟩
    simp only [references, List.mem_cons, Prod.mk.injEq, List.not_mem_nil,
      or_false] at hname
    rcases hname with ⟨rfl, rfl⟩ | ⟨rfl, rfl⟩ | ⟨rfl, rfl⟩ | ⟨rfl, rfl⟩ |
      ⟨rfl, rfl⟩ <;> rfl
  · have hne : ∀ name d, (name, d) ∈ references → c ≠ d := by
      rintro name d hmem rfl
      exact hreference ⟨name, hmem⟩
    have hlt := hne "lt".toList '<' (by simp [references])
    have hgt := hne "gt".toList '>' (by simp [references])
    have hamp := hne "amp".toList '&' (by simp [references])
    have hapos := hne "apos".toList '\'' (by simp [references])
    have hquot := hne "quot".toList '"' (by simp [references])
    refine Or.inr ⟨?_, hlt, hamp, hquot⟩
    rw [escapeChar, if_neg hlt, if_neg hgt, if_neg hamp, if_neg hapos,
      if_neg hquot]

theorem splitFrom_escapeChar (seen rest : List Char) (c : Char) :
    splitFrom (.text seen) (escapeChar c ++ rest) =
      splitFrom (.text ((escapeChar c).reverse ++ seen)) rest := by
  rcases escapeChar_cases c with ⟨name, hname, hc⟩ | ⟨hc, hopen, hamp, -⟩
  · have hstep : (Mode.text seen).step '&' =
        .ok (.reference ('&' :: seen), none) := rfl
    rw [hc, List.cons_append, List.append_assoc, splitFrom_silent hstep]
    have href := splitFrom_reference ('&' :: seen) rest
      (isAlpha_of_mem_references hname)
    simpa using href
  · have hstep : (Mode.text seen).step c = .ok (.text (c :: seen), none) := by
      simp [Mode.step, hopen, hamp]
    rw [hc]
    exact splitFrom_silent hstep rest

/-- Escaped text is read to its end. -/
theorem splitFrom_escape (cs seen rest : List Char) :
    splitFrom (.text seen) (escape cs ++ rest) =
      splitFrom (.text ((escape cs).reverse ++ seen)) rest := by
  induction cs generalizing seen with
  | nil => rfl
  | cons c cs ih =>
      rw [escape_cons, List.append_assoc, splitFrom_escapeChar, ih,
        List.reverse_append, List.append_assoc]

/-- At an opening angle bracket the text before it is complete. -/
theorem splitFrom_open (pending rest : List Char) :
    splitFrom (.text pending.reverse) ('<' :: rest) =
      .prependAll (flush pending) (splitFrom .markup rest) := by
  have hstep : (Mode.text pending.reverse).step '<' =
      .ok (.markup, Mode.textToken pending.reverse) := rfl
  rw [splitFrom_cons hstep, Mode.textToken, flush, List.isEmpty_reverse,
    List.reverse_reverse]
  split <;> rfl

/-! ## Tags -/

/-- Characters that do not change the quotation stay in the tag. -/
theorem splitFrom_tag {quote : Option Char} {cs : List Char}
    (hstay : ∀ c ∈ cs, quoteAfter quote c = quote)
    (hend : quote = none → '>' ∉ cs) (seen rest : List Char) :
    splitFrom (.tag quote seen) (cs ++ rest) =
      splitFrom (.tag quote (cs.reverse ++ seen)) rest := by
  induction cs generalizing seen with
  | nil => rfl
  | cons c cs ih =>
      obtain ⟨hfirst, hrest⟩ := List.forall_mem_cons.mp hstay
      have hgreater : ¬(c = '>' ∧ quote = none) := by
        rintro ⟨rfl, hquote⟩
        exact hend hquote List.mem_cons_self
      have hstep : (Mode.tag quote seen).step c =
          .ok (.tag quote (c :: seen), none) := by
        rw [Mode.step, Mode.stepTag, if_neg hgreater, hfirst]
      have hend' : quote = none → '>' ∉ cs := by
        intro hquote hmem
        exact hend hquote (List.mem_cons_of_mem c hmem)
      rw [List.cons_append, splitFrom_silent hstep, ih hrest hend',
        List.reverse_cons, List.append_assoc, List.singleton_append]

theorem splitFrom_tag_name {name : String} (h : IsName name)
    (seen rest : List Char) :
    splitFrom (.tag none seen) (name.toList ++ rest) =
      splitFrom (.tag none (name.toList.reverse ++ seen)) rest := by
  apply splitFrom_tag
  · intro c hc
    rw [quoteAfter, h.isQuote_eq_false hc]
    rfl
  · intro _ hmem
    exact h.ne_of_isDelimiter hmem (by decide : isDelimiter '>' = true) rfl

theorem quote_notMem_escape (cs : List Char) : '"' ∉ escape cs := by
  intro hmem
  obtain ⟨c, -, hc⟩ := List.mem_flatMap.mp hmem
  rcases escapeChar_cases c with ⟨name, hname, hform⟩ | ⟨hform, -, -, hquote⟩
  · have hquote : '"' ∉ name := by
      intro hin
      have halpha := isAlpha_of_mem_references hname
      cases List.all_eq_true.mp halpha '"' hin
    rw [hform] at hc
    simp [hquote] at hc
  · rw [hform] at hc
    exact hquote (List.mem_singleton.mp hc).symm

/-- An attribute begins and ends outside of quotations. -/
theorem splitFrom_tag_attribute {a : String × String} (h : IsName a.1)
    (seen rest : List Char) :
    splitFrom (.tag none seen) (renderAttribute a ++ rest) =
      splitFrom (.tag none ((renderAttribute a).reverse ++ seen)) rest := by
  have hvalue : ∀ c ∈ escape a.2.toList,
      quoteAfter (some '"') c = some '"' := by
    intro c hc
    have hne : c ≠ '"' := by
      rintro rfl
      exact quote_notMem_escape _ hc
    rw [quoteAfter, if_neg hne]
  have hblank : (Mode.tag none seen).step ' ' =
      .ok (.tag none (' ' :: seen), none) := rfl
  have hequals : ∀ seen, (Mode.tag none seen).step '=' =
      .ok (.tag none ('=' :: seen), none) := fun _ => rfl
  have hopen : ∀ seen, (Mode.tag none seen).step '"' =
      .ok (.tag (some '"') ('"' :: seen), none) := fun _ => rfl
  have hclose : ∀ seen, (Mode.tag (some '"') seen).step '"' =
      .ok (.tag none ('"' :: seen), none) := fun _ => rfl
  have hattribute : renderAttribute a = ' ' :: (a.1.toList ++
      '=' :: '"' :: (escape a.2.toList ++ ['"'])) := by
    simp [renderAttribute]
  rw [hattribute, List.cons_append, List.append_assoc,
    splitFrom_silent hblank, splitFrom_tag_name h, List.cons_append,
    List.cons_append, splitFrom_silent (hequals _),
    splitFrom_silent (hopen _), List.append_assoc,
    splitFrom_tag hvalue (fun hquote => nomatch hquote),
    List.singleton_append, splitFrom_silent (hclose _)]
  simp

theorem splitFrom_tag_attributes {attributes : List (String × String)}
    (h : ∀ a ∈ attributes, IsName a.1) (seen rest : List Char) :
    splitFrom (.tag none seen) (attributes.flatMap renderAttribute ++ rest) =
      splitFrom
        (.tag none ((attributes.flatMap renderAttribute).reverse ++ seen))
        rest := by
  induction attributes generalizing seen with
  | nil => rfl
  | cons a attributes ih =>
      obtain ⟨hfirst, hrest⟩ := List.forall_mem_cons.mp h
      rw [List.flatMap_cons, List.append_assoc,
        splitFrom_tag_attribute hfirst, ih hrest,
        List.reverse_append, List.append_assoc]

theorem splitFrom_markup {c : Char} (hslash : c ≠ '/') (hquestion : c ≠ '?')
    (hbang : c ≠ '!') (rest : List Char) :
    splitFrom .markup (c :: rest) = splitFrom (.tag none []) (c :: rest) := by
  have hstep : Mode.step .markup c = Mode.step (.tag none []) c := by
    simp [Mode.step, hslash, hquestion, hbang]
  rw [splitFrom, splitFrom, hstep]

theorem splitFrom_renderTag {name : String}
    {attributes : List (String × String)}
    (h : IsPlainTag (name, attributes)) (rest : List Char) :
    splitFrom .markup (renderTag name attributes ++ rest) =
      splitFrom (.tag none (renderTag name attributes).reverse) rest := by
  obtain ⟨hname, hattributes⟩ := h
  obtain ⟨c, cs, hcs⟩ := List.exists_cons_of_ne_nil hname.nonempty
  have hmem : c ∈ name.toList := by
    rw [hcs]
    exact List.mem_cons_self
  have hfirst : ∀ rest, splitFrom .markup (name.toList ++ rest) =
      splitFrom (.tag none []) (name.toList ++ rest) := by
    intro rest
    rw [hcs, List.cons_append]
    exact splitFrom_markup (hname.ne_of_isDelimiter hmem (by decide))
      (hname.ne_of_isDelimiter hmem (by decide))
      (hname.ne_of_isDelimiter hmem (by decide)) _
  rw [renderTag, List.append_assoc, hfirst, splitFrom_tag_name hname,
    splitFrom_tag_attributes hattributes, List.append_nil,
    List.reverse_append]

theorem tagToken_slash (raw : List Char) :
    Mode.tagToken ('/' :: raw.reverse) = .empty raw := by
  rw [Mode.tagToken, List.reverse_reverse]

theorem tagToken_of_ne {raw : List Char} {c : Char} (h : c ≠ '/') :
    Mode.tagToken (raw ++ [c]).reverse = .opening (raw ++ [c]) := by
  have hreverse : (raw ++ [c]).reverse = c :: raw.reverse := by simp
  rw [hreverse]
  unfold Mode.tagToken
  split
  · rename_i seen heq
    cases heq
    exact absurd rfl h
  · simp

/-- A written tag does not end with a slash of its own. -/
theorem exists_renderTag_eq {name : String}
    {attributes : List (String × String)}
    (h : IsPlainTag (name, attributes)) :
    ∃ raw c, renderTag name attributes = raw ++ [c] ∧ c ≠ '/' := by
  rcases List.eq_nil_or_concat attributes with rfl | ⟨earlier, a, rfl⟩
  · have hname := h.1
    obtain ⟨raw, c, hraw⟩ :=
      List.eq_nil_or_concat name.toList |>.resolve_left hname.nonempty
    have hmem : c ∈ name.toList := by simp [hraw]
    refine ⟨raw, c, ?_, hname.ne_of_isDelimiter hmem (by decide)⟩
    simp [renderTag, hraw]
  · refine ⟨name.toList ++ earlier.flatMap renderAttribute ++
      (' ' :: a.1.toList ++ '=' :: '"' :: escape a.2.toList), '"', ?_,
      by decide⟩
    simp [renderTag, renderAttribute]

theorem splitFrom_opening {name : String}
    {attributes : List (String × String)}
    (h : IsPlainTag (name, attributes)) (rest : List Char) :
    splitFrom .markup (renderTag name attributes ++ '>' :: rest) =
      .prependAll [.opening (renderTag name attributes)]
        (splitFrom (.text []) rest) := by
  obtain ⟨raw, c, hraw, hc⟩ := exists_renderTag_eq h
  have hstep : (Mode.tag none (renderTag name attributes).reverse).step '>' =
      .ok (.text [], some (.opening (renderTag name attributes))) := by
    rw [hraw, ← tagToken_of_ne hc]
    rfl
  rw [splitFrom_renderTag h, splitFrom_cons hstep]
  rfl

theorem splitFrom_empty {name : String}
    {attributes : List (String × String)}
    (h : IsPlainTag (name, attributes)) (rest : List Char) :
    splitFrom .markup (renderTag name attributes ++ '/' :: '>' :: rest) =
      .prependAll [.empty (renderTag name attributes)]
        (splitFrom (.text []) rest) := by
  have hslash : ∀ seen, (Mode.tag none seen).step '/' =
      .ok (.tag none ('/' :: seen), none) := fun _ => rfl
  have hstep :
      (Mode.tag none ('/' :: (renderTag name attributes).reverse)).step '>' =
        .ok (.text [], some (.empty (renderTag name attributes))) := by
    rw [← tagToken_slash]
    rfl
  rw [splitFrom_renderTag h, splitFrom_silent (hslash _),
    splitFrom_cons hstep]
  rfl

theorem splitFrom_closing_name {cs : List Char}
    (h : ∀ c ∈ cs, c ≠ '>' ∧ isQuote c = false) (seen rest : List Char) :
    splitFrom (.closing none seen) (cs ++ '>' :: rest) =
      .prependAll [.closing (seen.reverse ++ cs)]
        (splitFrom (.text []) rest) := by
  induction cs generalizing seen with
  | nil =>
      have hstep : (Mode.closing none seen).step '>' =
          .ok (.text [], some (.closing seen.reverse)) := rfl
      rw [List.nil_append, splitFrom_cons hstep, List.append_nil]
      rfl
  | cons c cs ih =>
      obtain ⟨⟨hgreater, hquote⟩, htail⟩ := List.forall_mem_cons.mp h
      have hstep : (Mode.closing none seen).step c =
          .ok (.closing none (c :: seen), none) := by
        simp [Mode.step, quoteAfter, hgreater, hquote]
      rw [List.cons_append, splitFrom_silent hstep, ih htail]
      simp

theorem splitFrom_closing {name : String} (h : IsName name)
    (rest : List Char) :
    splitFrom .markup ('/' :: (name.toList ++ '>' :: rest)) =
      .prependAll [.closing name.toList] (splitFrom (.text []) rest) := by
  have hstep : Mode.step .markup '/' = .ok (.closing none [], none) := rfl
  have hname : ∀ c ∈ name.toList, c ≠ '>' ∧ isQuote c = false := by
    intro c hc
    exact ⟨h.ne_of_isDelimiter hc (by decide), h.isQuote_eq_false hc⟩
  rw [splitFrom_silent hstep, splitFrom_closing_name hname]
  rfl

/-! ## Nodes -/

mutual

/-- A written node is split into its tokens, behind any text and in front of
anything. -/
theorem splitFrom_renderNode :
    ∀ (node : Node) (pending rest : List Char), node.IsPlain →
      splitFrom (.text pending.reverse) (renderNode .compact 0 true node ++
        rest) =
        .prependAll (nodePieces pending node).tokens
          (splitFrom (.text (nodePieces pending node).pending.reverse) rest)
  | .text value, pending, rest, _ => by
    rw [renderNode_text, splitFrom_escape, nodePieces, List.reverse_append]
    rfl
  | .element name attributes [], pending, rest, h => by
    obtain ⟨htag, -⟩ := Node.isPlain_element.mp h
    have hempty := splitFrom_empty htag rest
    rw [renderNode_empty, nodePieces, List.cons_append, List.append_assoc,
      splitFrom_open, Tokens.prependAll_append]
    exact congrArg _ hempty
  | .element name attributes (first :: others), pending, rest, h => by
    obtain ⟨htag, hchildren⟩ := Node.isPlain_element.mp h
    have hne : first :: others ≠ [] := List.cons_ne_nil first others
    have hinner := splitFrom_renderCompact (first :: others) []
      ('<' :: '/' :: (name.toList ++ '>' :: rest)) hchildren
    have hclosing := splitFrom_closing htag.1 rest
    rw [List.reverse_nil] at hinner
    rw [renderNode_filled name attributes hne, nodePieces]
    simp only [List.cons_append, List.append_assoc, List.nil_append]
    rw [splitFrom_open, splitFrom_opening htag, hinner, splitFrom_open,
      hclosing]
    simp [Tokens.prependAll]

/-- Written nodes are split into their tokens. -/
theorem splitFrom_renderCompact :
    ∀ (nodes : List Node) (pending rest : List Char), Node.AllPlain nodes →
      splitFrom (.text pending.reverse) (renderCompact nodes ++ rest) =
        .prependAll (pieces pending nodes).tokens
          (splitFrom (.text (pieces pending nodes).pending.reverse) rest)
  | [], pending, rest, _ => by
    rw [pieces, Tokens.prependAll_nil]
    rfl
  | node :: others, pending, rest, h => by
    obtain ⟨hnode, hothers⟩ := Node.allPlain_cons.mp h
    rw [renderCompact_cons, List.append_assoc,
      splitFrom_renderNode node pending _ hnode,
      splitFrom_renderCompact others _ rest hothers, pieces,
      Tokens.prependAll_append]

end

end Markup

end CityMarkup
