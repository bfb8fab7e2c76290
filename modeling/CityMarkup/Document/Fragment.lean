import CityMarkup.Document.Builder

/-!
# Fragments of a document

A fragment is a part of a document whose elements are given by local names
and namespaces.  A builder adds a fragment by opening, filling and closing its
elements one after the other, and it is then that the names are written out.
-/

namespace CityMarkup

/-- An element of a namespace, or a piece of text. -/
inductive Fragment where
  | element (name : String) (ns : Namespace)
      (attributes : List (String × String)) (content : List Fragment)
  | text (value : String)
deriving Repr

namespace Fragment

/-- An element that holds one piece of text. -/
def textElement (name : String) (ns : Namespace) (value : String) :
    Fragment :=
  .element name ns [] [.text value]

/-- An element without attributes around some content. -/
def wrap (name : String) (ns : Namespace) (content : List Fragment) :
    Fragment :=
  .element name ns [] content

/-- An element that holds one piece of text, if the text is not empty. -/
def optionalText (name : String) (ns : Namespace) (value : String) :
    List Fragment :=
  if value.isEmpty then [] else [textElement name ns value]

/-- The attribute that carries an identifier, if there is one. -/
def identity (id : String) : List (String × String) :=
  if id.isEmpty then [] else [("gml:id", id)]

mutual

/-- The node that a fragment becomes under some settings. -/
def toNode (s : Settings) : Fragment → Node
  | .text value => .text value
  | .element name ns attributes content =>
    .element (s.qualify name ns)
      (attributes.foldl (fun l a => setAttribute a.1 a.2 l) [])
      (toNodes s content)

/-- The nodes that some fragments become under some settings. -/
def toNodes (s : Settings) : List Fragment → List Node
  | [] => []
  | fragment :: rest => toNode s fragment :: toNodes s rest

end

end Fragment

namespace Builder

/-- Gives several attributes of the innermost element their values. -/
def writeAttributes : List (String × String) → Action Builder Unit
  | [] => pure ()
  | first :: rest => do
    writeAttribute first.1 first.2
    writeAttributes rest

mutual

/-- Adds a fragment to the innermost element. -/
def insert : Fragment → Action Builder Unit
  | .text value => writeText value
  | .element name ns attributes content => do
    startElement name ns
    writeAttributes attributes
    insertAll content
    endElement

/-- Adds fragments to the innermost element, one after the other. -/
def insertAll : List Fragment → Action Builder Unit
  | [] => pure ()
  | fragment :: rest => do
    insert fragment
    insertAll rest

end

variable (s : Settings) (e : OpenElement) (outer : List OpenElement)

theorem run_writeAttributes (attributes : List (String × String)) :
    (writeAttributes attributes).run ⟨s, e :: outer, none⟩ =
      ⟨.ok (), ⟨s, { e with
        attributes :=
          attributes.foldl (fun l a => setAttribute a.1 a.2 l) e.attributes }
        :: outer, none⟩, []⟩ := by
  induction attributes generalizing e with
  | nil => rfl
  | cons first rest ih =>
    rw [writeAttributes,
      Action.run_bind_ok (run_writeAttribute s e outer first.1 first.2), ih]
    rfl

mutual

/-- Adding a fragment to an open document adds its node to the innermost
element and changes nothing else. -/
theorem run_insert (e : OpenElement) (outer : List OpenElement) :
    ∀ fragment : Fragment,
      (insert fragment).run ⟨s, e :: outer, none⟩ =
        ⟨.ok (), ⟨s, e.push (fragment.toNode s) :: outer, none⟩, []⟩
  | .text value => by
    rw [insert, run_writeText]
    rfl
  | .element name ns attributes content => by
    rw [insert, Action.run_bind_ok (run_startElement s e outer name ns),
      Action.run_bind_ok (run_writeAttributes s _ _ attributes),
      Action.run_bind_ok (run_insertAll _ _ content), run_endElement]
    simp [OpenElement.toNode, Fragment.toNode]

/-- Adding fragments to an open document adds their nodes to the innermost
element and changes nothing else. -/
theorem run_insertAll (e : OpenElement) (outer : List OpenElement) :
    ∀ fragments : List Fragment,
      (insertAll fragments).run ⟨s, e :: outer, none⟩ =
        ⟨.ok (), ⟨s, { e with
          children := e.children ++ Fragment.toNodes s fragments } :: outer,
          none⟩, []⟩
  | [] => by simp [insertAll, Fragment.toNodes]
  | fragment :: rest => by
    rw [insertAll, Action.run_bind_ok (run_insert e outer fragment),
      run_insertAll _ _ rest]
    simp [OpenElement.push, Fragment.toNodes]

end

end Builder

end CityMarkup
