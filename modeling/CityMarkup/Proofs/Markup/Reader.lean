import CityMarkup.Document.Builder
import CityMarkup.Proofs.Markup.Acceptance

/-!
# A reader of documents

A reader splits a text into tokens, takes the tags apart, undoes the five
references, and puts the elements together again.  Escaped text and written
tags are read back as they were.
-/

namespace CityMarkup

namespace Markup

/-! ## The reader -/

namespace Reader

/-- The character that a reference stands for. -/
def named? (name : List Char) : Option Char :=
  references.lookup name

/-- The text that was escaped, read from inside of a reference or from
outside of any. -/
def unescapeFrom : Option (List Char) → List Char → Option (List Char)
  | none, [] => some []
  | some _, [] => none
  | none, c :: rest =>
    if c = '&' then unescapeFrom (some []) rest
    else (unescapeFrom none rest).map (c :: ·)
  | some seen, c :: rest =>
    if c = ';' then
      (named? seen.reverse).bind fun found =>
        (unescapeFrom none rest).map (found :: ·)
    else
      unescapeFrom (some (c :: seen)) rest

/-- The text that was escaped, unless there are other references in it. -/
def unescape (cs : List Char) : Option (List Char) :=
  unescapeFrom none cs

/-- Where the reading of attributes stands. -/
inductive AttributeMode where
  | between
  | name (seen : List Char)
  | equals (name : List Char)
  | value (name : List Char) (quote : Char) (seen : List Char)

/-- The attributes in a tag, with their values unescaped. -/
def attributesFrom : AttributeMode → List Char →
    Option (List (String × String))
  | .between, [] => some []
  | _, [] => none
  | .between, c :: rest =>
    if isBlank c then attributesFrom .between rest
    else attributesFrom (.name [c]) rest
  | .name seen, c :: rest =>
    if c = '=' then attributesFrom (.equals seen.reverse) rest
    else attributesFrom (.name (c :: seen)) rest
  | .equals name, c :: rest =>
    if isQuote c then attributesFrom (.value name c []) rest else none
  | .value name quote seen, c :: rest =>
    if c = quote then
      (unescape seen.reverse).bind fun value =>
        (attributesFrom .between rest).map
          ((String.ofList name, String.ofList value) :: ·)
    else
      attributesFrom (.value name quote (c :: seen)) rest

/-- The name and the attributes in a tag. -/
def tag? (raw : List Char) : Option (String × List (String × String)) :=
  (attributesFrom .between (raw.dropWhile fun c => !isBlank c)).map
    fun attributes => (String.ofList (openingName raw), attributes)

/-- The open elements after one more token, innermost first. -/
def step : List OpenElement → Token → Option (List OpenElement)
  | e :: outer, .text raw =>
    (unescape raw).map fun cs => e.push (.text (String.ofList cs)) :: outer
  | stack, .opening raw =>
    (tag? raw).map fun tag => ⟨tag.1, tag.2, []⟩ :: stack
  | e :: outer, .empty raw =>
    (tag? raw).map fun tag => e.push (.element tag.1 tag.2 []) :: outer
  | e :: parent :: outer, .closing raw =>
    if e.name.toList = closingName raw then
      some (parent.push e.toNode :: outer)
    else
      none
  | stack, .aside => some stack
  | _, _ => none

/-- The open elements after some tokens. -/
def run : List OpenElement → List Token → Option (List OpenElement)
  | stack, [] => some stack
  | stack, token :: rest => (step stack token).bind fun next => run next rest

/-- What is read from a text outside of all elements. -/
def nodes? (cs : List Char) : Option (List Node) :=
  let pieces := split cs
  match pieces.fault, run [⟨"", [], []⟩] pieces.tokens with
  | none, some [e] => some e.children
  | _, _ => none

end Reader

/-! ## Escaped text -/

namespace Reader

theorem unescapeFrom_reference {cs : List Char} (h : ';' ∉ cs)
    (seen rest : List Char) :
    unescapeFrom (some seen) (cs ++ ';' :: rest) =
      (named? (seen.reverse ++ cs)).bind fun found =>
        (unescapeFrom none rest).map (found :: ·) := by
  induction cs generalizing seen with
  | nil =>
      rw [List.nil_append, unescapeFrom, if_pos rfl, List.append_nil]
  | cons c cs ih =>
      rw [List.mem_cons, not_or] at h
      rw [List.cons_append, unescapeFrom, if_neg (Ne.symm h.1),
        ih h.2 (c :: seen), List.reverse_cons, List.append_assoc,
        List.singleton_append]

theorem named?_of_mem {name : List Char} {c : Char}
    (h : (name, c) ∈ references) : named? name = some c := by
  have key : ∀ r ∈ references, named? r.1 = some r.2 := by decide
  exact key (name, c) h

theorem unescapeFrom_escapeChar (c : Char) (rest : List Char) :
    unescapeFrom none (escapeChar c ++ rest) =
      (unescapeFrom none rest).map (c :: ·) := by
  rcases escapeChar_cases c with ⟨name, hname, hc⟩ | ⟨hc, -, hamp, -⟩
  · have hend : ';' ∉ name := by
      intro hmem
      have halpha := isAlpha_of_mem_references hname
      cases List.all_eq_true.mp halpha ';' hmem
    have h := unescapeFrom_reference hend [] rest
    rw [List.reverse_nil, List.nil_append, named?_of_mem hname] at h
    rw [hc]
    simpa [unescapeFrom] using h
  · rw [hc, List.singleton_append, unescapeFrom, if_neg hamp]

/-- Undoing the references gives back every text. -/
theorem unescape_escape (cs : List Char) : unescape (escape cs) = some cs := by
  induction cs with
  | nil => rfl
  | cons c cs ih =>
      rw [unescape] at ih
      rw [unescape, escape_cons, unescapeFrom_escapeChar, ih]
      rfl

/-! ## Tags -/

theorem attributesFrom_name {cs : List Char} (h : '=' ∉ cs)
    (seen rest : List Char) :
    attributesFrom (.name seen) (cs ++ '=' :: rest) =
      attributesFrom (.equals (seen.reverse ++ cs)) rest := by
  induction cs generalizing seen with
  | nil =>
      rw [List.nil_append, attributesFrom, if_pos rfl, List.append_nil]
  | cons c cs ih =>
      rw [List.mem_cons, not_or] at h
      rw [List.cons_append, attributesFrom, if_neg (Ne.symm h.1),
        ih h.2 (c :: seen), List.reverse_cons, List.append_assoc,
        List.singleton_append]

theorem attributesFrom_value {cs : List Char} (h : '"' ∉ cs)
    (name seen rest : List Char) :
    attributesFrom (.value name '"' seen) (cs ++ '"' :: rest) =
      (unescape (seen.reverse ++ cs)).bind fun value =>
        (attributesFrom .between rest).map
          ((String.ofList name, String.ofList value) :: ·) := by
  induction cs generalizing seen with
  | nil =>
      rw [List.nil_append, attributesFrom, if_pos rfl, List.append_nil]
  | cons c cs ih =>
      rw [List.mem_cons, not_or] at h
      rw [List.cons_append, attributesFrom, if_neg (Ne.symm h.1),
        ih h.2 (c :: seen), List.reverse_cons, List.append_assoc,
        List.singleton_append]

theorem attributesFrom_renderAttribute {a : String × String}
    (h : IsName a.1) (rest : List Char) :
    attributesFrom .between (renderAttribute a ++ rest) =
      (attributesFrom .between rest).map (a :: ·) := by
  obtain ⟨c, cs, hcs⟩ := List.exists_cons_of_ne_nil h.nonempty
  have hblank : isBlank c = false := by
    apply h.isBlank_eq_false
    rw [hcs]
    exact List.mem_cons_self
  have hattribute : renderAttribute a ++ rest = ' ' :: (a.1.toList ++
      '=' :: '"' :: (escape a.2.toList ++ '"' :: rest)) := by
    simp [renderAttribute]
  have hequal : '=' ∉ a.1.toList := by
    intro hmem
    exact h.ne_of_isDelimiter hmem (by decide : isDelimiter '=' = true) rfl
  have hname := attributesFrom_name hequal [] ('"' :: (escape a.2.toList ++
    '"' :: rest))
  have hvalue := attributesFrom_value (quote_notMem_escape a.2.toList)
    a.1.toList [] rest
  have hne : c ≠ '=' := by
    rintro rfl
    apply hequal
    rw [hcs]
    exact List.mem_cons_self
  have hfirst : ∀ rest, attributesFrom .between (' ' :: (c :: rest)) =
      attributesFrom (.name []) (c :: rest) := by
    intro rest
    have hbetween : attributesFrom .between (' ' :: (c :: rest)) =
        attributesFrom (.name [c]) rest := by
      have hspace : isBlank ' ' = true := by decide
      rw [attributesFrom, if_pos hspace, attributesFrom, hblank]
      rfl
    rw [hbetween, attributesFrom, if_neg hne]
  have hbegin : attributesFrom .between (' ' :: (a.1.toList ++
      '=' :: '"' :: (escape a.2.toList ++ '"' :: rest))) =
      attributesFrom (.name []) (a.1.toList ++
        '=' :: '"' :: (escape a.2.toList ++ '"' :: rest)) := by
    rw [hcs, List.cons_append, hfirst]
  have hequals : ∀ name rest, attributesFrom (.equals name) ('"' :: rest) =
      attributesFrom (.value name '"' []) rest := by
    intro name rest
    have hquote : isQuote '"' = true := by decide
    rw [attributesFrom, if_pos hquote]
  rw [List.reverse_nil, List.nil_append] at hname hvalue
  rw [hattribute, hbegin, hname, hequals, hvalue, unescape_escape,
    Option.bind_some, String.ofList_toList, String.ofList_toList]

theorem attributesFrom_renderAttributes {attributes : List (String × String)}
    (h : ∀ a ∈ attributes, IsName a.1) :
    attributesFrom .between (attributes.flatMap renderAttribute) =
      some attributes := by
  induction attributes with
  | nil => rfl
  | cons a rest ih =>
      obtain ⟨hfirst, hrest⟩ := List.forall_mem_cons.mp h
      rw [List.flatMap_cons, attributesFrom_renderAttribute hfirst, ih hrest]
      rfl

/-- A tag is read back with its name, and with its attributes in order. -/
theorem tag?_renderTag {name : String} {attributes : List (String × String)}
    (h : IsPlainTag (name, attributes)) :
    tag? (renderTag name attributes) = some (name, attributes) := by
  have hname : ∀ c ∈ name.toList, (!isBlank c) = true := by
    intro c hc
    rw [h.1.isBlank_eq_false hc]
    rfl
  have hrest : (attributes.flatMap renderAttribute).dropWhile
      (fun c => !isBlank c) = attributes.flatMap renderAttribute := by
    cases attributes with
    | nil => rfl
    | cons a rest => rfl
  have hdrop : (renderTag name attributes).dropWhile (fun c => !isBlank c) =
      attributes.flatMap renderAttribute := by
    rw [renderTag, List.dropWhile_append_of_pos hname, hrest]
  rw [tag?, hdrop, attributesFrom_renderAttributes h.2,
    openingName_renderTag h.1, String.ofList_toList]
  rfl

end Reader

end Markup

end CityMarkup
