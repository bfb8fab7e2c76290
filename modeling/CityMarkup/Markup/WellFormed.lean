import CityMarkup.Failure
import CityMarkup.Markup.Token

/-!
# Well-formed documents

A document is well formed when its bytes are text, the text splits into
tokens, every end tag closes the innermost open element, no element stays
open, and there is exactly one document element.
-/

namespace CityMarkup

namespace Markup

/-- The name in a start tag: everything before the first blank. -/
def openingName (raw : List Char) : List Char :=
  raw.takeWhile fun c => !isBlank c

/-- The name in an end tag: everything but the blanks at its end.  A tag of
blanks alone keeps them. -/
def closingName (raw : List Char) : List Char :=
  if raw.all isBlank then raw
  else (raw.reverse.dropWhile isBlank).reverse

/-- The elements that are open, innermost first, and the number of document
elements that have begun. -/
structure Nesting where
  names : List (List Char)
  roots : Nat
deriving DecidableEq, Repr

namespace Nesting

/-- Counts an element as a document element if no other element is open. -/
def begin (n : Nesting) : Nesting :=
  if n.names.isEmpty then { n with roots := n.roots + 1 } else n

/-- The nesting after one more token. -/
def step (n : Nesting) : Token → Except Fault Nesting
  | .opening raw =>
    .ok { n.begin with names := openingName raw :: n.names }
  | .empty _ => .ok n.begin
  | .closing raw =>
    let found := closingName raw
    match n.names with
    | [] => .error (.nothingToClose (String.ofList found))
    | name :: names =>
      if name = found then
        .ok { n with names }
      else
        .error (.tagMismatch (String.ofList name) (String.ofList found))
  | .text _ | .aside => .ok n

/-- The nesting after a list of tokens. -/
def run (n : Nesting) : List Token → Except Fault Nesting
  | [] => .ok n
  | token :: rest =>
    match n.step token with
    | .ok next => next.run rest
    | .error fault => .error fault

end Nesting

/-- A text without the mark that tells its byte order. -/
def dropByteOrderMark : List Char → List Char
  | '\uFEFF' :: rest => rest
  | cs => cs

/-- Checks a text.  A fault in the nesting of tags comes before any fault that
stands later in the text. -/
def checkText (cs : List Char) : Except Failure Unit :=
  let pieces := split (dropByteOrderMark cs)
  match Nesting.run ⟨[], 0⟩ pieces.tokens, pieces.fault with
  | .error fault, _ => .error (.markup fault)
  | .ok _, some fault => .error (.markup fault)
  | .ok nesting, none =>
    if !nesting.names.isEmpty then
      .error (.document (.unclosed nesting.names.length))
    else if nesting.roots ≠ 1 then
      .error (.document (.documentElements nesting.roots))
    else
      .ok ()

/-- Checks that bytes are a well-formed document. -/
def checkWellFormed (bytes : List UInt8) : Except Failure Unit :=
  match Utf8.decode bytes with
  | .error fault => .error (.document (.notText fault))
  | .ok cs => checkText cs

end Markup

end CityMarkup
