import CityMarkup.Markup.Escape
import CityMarkup.Markup.Node

/-!
# Written documents

An element tree is written either on one line or with line breaks.  With line
breaks a tag begins a new line, indented by the depth of its element, unless
text stands directly before it.  Names are written as they are.
-/

namespace CityMarkup

/-- How a document is laid out: with the given indentation for each depth, or
on one line. -/
inductive Layout where
  | compact
  | indented (width : Nat)
deriving DecidableEq, Repr

namespace Layout

/-- What comes before a tag at a depth.  Nothing comes before the first tag
of a document and before a tag directly after text. -/
def gap (l : Layout) (breaks : Bool) (depth : Nat) : List Char :=
  match l with
  | compact => []
  | indented width =>
    if breaks then '\n' :: List.replicate (depth * width) ' ' else []

/-- What comes after the last tag of a document. -/
def ending : Layout → List Char
  | compact => []
  | indented _ => ['\n']

end Layout

namespace Markup

/-- An attribute, with the space before it. -/
def renderAttribute (a : String × String) : List Char :=
  ' ' :: a.1.toList ++ '=' :: '"' :: escape a.2.toList ++ ['"']

/-- What stands between the angle brackets of a start tag. -/
def renderTag (name : String) (attributes : List (String × String)) :
    List Char :=
  name.toList ++ attributes.flatMap renderAttribute

/-- Whether a tag after the given nodes begins a new line.  Before the first
node the answer is the one given. -/
def breaksAfter (breaks : Bool) (nodes : List Node) : Bool :=
  match nodes.getLast? with
  | none => breaks
  | some node => node.isElement

mutual

/-- A node at a depth, written after something that allows a line break or
does not. -/
def renderNode (l : Layout) (depth : Nat) (breaks : Bool) :
    Node → List Char
  | .text value => escape value.toList
  | .element name attributes children =>
    match children with
    | [] =>
      l.gap breaks depth ++ '<' :: renderTag name attributes ++ ['/', '>']
    | first :: rest =>
      l.gap breaks depth ++ '<' :: renderTag name attributes ++ '>' ::
        renderNodes l (depth + 1) true (first :: rest) ++
        l.gap (breaksAfter true (first :: rest)) depth ++
        '<' :: '/' :: name.toList ++ ['>']

/-- Nodes at a depth, one after the other. -/
def renderNodes (l : Layout) (depth : Nat) (breaks : Bool) :
    List Node → List Char
  | [] => []
  | node :: rest =>
    renderNode l depth breaks node ++
      renderNodes l depth node.isElement rest

end

/-- The declaration that a document begins with. -/
def renderDeclaration (encoding : String) : List Char :=
  "<?xml version=\"1.0\" encoding=\"".toList ++ encoding.toList ++
    "\"?>".toList

/-- A whole document with the given document element. -/
def renderDocument (l : Layout) (encoding : String) (root : Node) :
    List Char :=
  renderDeclaration encoding ++ renderNode l 0 true root ++ l.ending

end Markup

end CityMarkup
