import CityMarkup.Proofs.Encoding.Attributes

/-!
# Paths into elements

What stands in a document can be found by the local names of the elements
around it, whichever namespaces are declared.  A path leads from element to
element, each time into the first one of the next name; at its end there is some
content, which may be one piece of text, or the attributes of the last element.
-/

namespace CityMarkup

namespace Node

/-- The content of the first element with a local name. -/
def contentOf (name : String) : List Node → List Node
  | [] => []
  | .text _ :: rest => contentOf name rest
  | .element found _ content :: rest =>
    if Outline.localName found = name then content else contentOf name rest

/-- The attributes of the first element with a local name. -/
def attributesOf (name : String) : List Node → List (String × String)
  | [] => []
  | .text _ :: rest => attributesOf name rest
  | .element found attributes _ :: rest =>
    if Outline.localName found = name then attributes
    else attributesOf name rest

/-- The text at the end of a path of local names, if nothing else is there. -/
def textAt? : List String → List Node → Option String
  | [], [.text value] => some value
  | [], _ => none
  | name :: path, nodes => textAt? path (contentOf name nodes)

/-- What stands at the end of a path of local names. -/
def contentAt : List String → List Node → List Node
  | [], nodes => nodes
  | name :: path, nodes => contentAt path (contentOf name nodes)

theorem textAt?_nil (path : List String) : textAt? path [] = none := by
  induction path with
  | nil => rfl
  | cons name path ih => exact ih

end Node

namespace Fragment

variable (s : Settings)

theorem contentOf_toNodes_cons {name : String}
    (h : name.toList.all Char.isAlphanum = true) (ns : Namespace)
    (attributes : List (String × String)) (content rest : List Fragment)
    (wanted : String) :
    Node.contentOf wanted
        (toNodes s (.element name ns attributes content :: rest)) =
      if name = wanted then toNodes s content
      else Node.contentOf wanted (toNodes s rest) := by
  rw [toNodes, toNode, Node.contentOf, s.localName_qualify h]

/-- A path leads into the first element with the name that it begins with. -/
theorem textAt?_toNodes_cons {name : String}
    (h : name.toList.all Char.isAlphanum = true) (ns : Namespace)
    (attributes : List (String × String)) (content rest : List Fragment)
    (wanted : String) (path : List String) :
    Node.textAt? (wanted :: path)
        (toNodes s (.element name ns attributes content :: rest)) =
      if name = wanted then Node.textAt? path (toNodes s content)
      else Node.textAt? (wanted :: path) (toNodes s rest) := by
  rw [Node.textAt?, Node.textAt?, contentOf_toNodes_cons s h]
  split <;> rfl

theorem textAt?_toNodes_nil (path : List String) :
    Node.textAt? path (toNodes s []) = none :=
  Node.textAt?_nil path

theorem textAt?_toNodes_text (value : String) :
    Node.textAt? [] (toNodes s [.text value]) = some value := rfl

theorem attributesOf_toNodes_cons {name : String}
    (h : name.toList.all Char.isAlphanum = true) (ns : Namespace)
    (attributes : List (String × String)) (content rest : List Fragment)
    (wanted : String) :
    Node.attributesOf wanted
        (toNodes s (.element name ns attributes content :: rest)) =
      if name = wanted then
        attributes.foldl (fun l a => setAttribute a.1 a.2 l) []
      else Node.attributesOf wanted (toNodes s rest) := by
  rw [toNodes, toNode, Node.attributesOf, s.localName_qualify h]

theorem contentOf_toNode {name : String}
    (h : name.toList.all Char.isAlphanum = true) (ns : Namespace)
    (attributes : List (String × String)) (content : List Fragment) :
    Node.contentOf name [toNode s (.element name ns attributes content)] =
      toNodes s content := by
  have hself := contentOf_toNodes_cons s h ns attributes content [] name
  rwa [if_pos rfl] at hself

theorem attributesOf_toNode {name : String}
    (h : name.toList.all Char.isAlphanum = true) (ns : Namespace)
    (attributes : List (String × String)) (content : List Fragment) :
    Node.attributesOf name [toNode s (.element name ns attributes content)] =
      attributes.foldl (fun l a => setAttribute a.1 a.2 l) [] := by
  have hself := attributesOf_toNodes_cons s h ns attributes content [] name
  rwa [if_pos rfl] at hself

/-! ## Past other elements -/

/-- Whether a fragment is no element with the given local name. -/
def IsOther (wanted : String) : Fragment → Prop
  | .element name _ _ _ =>
    name.toList.all Char.isAlphanum = true ∧ name ≠ wanted
  | .text _ => True

theorem isOther_optionalText {name wanted : String}
    (h : name.toList.all Char.isAlphanum = true ∧ name ≠ wanted)
    (ns : Namespace) (value : String) :
    ∀ fragment ∈ optionalText name ns value, IsOther wanted fragment := by
  rw [optionalText]
  split
  · exact List.forall_mem_nil _
  · exact List.forall_mem_singleton.mpr h

theorem contentOf_append_of_isOther {wanted : String} {first : List Fragment}
    (h : ∀ fragment ∈ first, IsOther wanted fragment)
    (rest : List Fragment) :
    Node.contentOf wanted (toNodes s (first ++ rest)) =
      Node.contentOf wanted (toNodes s rest) := by
  induction first with
  | nil => rfl
  | cons fragment others ih =>
      obtain ⟨hother, hothers⟩ := List.forall_mem_cons.mp h
      rw [← ih hothers, List.cons_append]
      cases fragment with
      | element name ns attributes content =>
          rw [contentOf_toNodes_cons s hother.1, if_neg hother.2]
      | text value => rfl

theorem attributesOf_append_of_isOther {wanted : String}
    {first : List Fragment} (h : ∀ fragment ∈ first, IsOther wanted fragment)
    (rest : List Fragment) :
    Node.attributesOf wanted (toNodes s (first ++ rest)) =
      Node.attributesOf wanted (toNodes s rest) := by
  induction first with
  | nil => rfl
  | cons fragment others ih =>
      obtain ⟨hother, hothers⟩ := List.forall_mem_cons.mp h
      rw [← ih hothers, List.cons_append]
      cases fragment with
      | element name ns attributes content =>
          rw [attributesOf_toNodes_cons s hother.1, if_neg hother.2]
      | text value => rfl

theorem textAt?_append_of_isOther {wanted : String} {first : List Fragment}
    (h : ∀ fragment ∈ first, IsOther wanted fragment) (path : List String)
    (rest : List Fragment) :
    Node.textAt? (wanted :: path) (toNodes s (first ++ rest)) =
      Node.textAt? (wanted :: path) (toNodes s rest) := by
  rw [Node.textAt?, contentOf_append_of_isOther s h, Node.textAt?]

end Fragment

end CityMarkup
