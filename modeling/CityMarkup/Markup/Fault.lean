/-!
# Faults of marked-up text

Everything that can be wrong with a document before its elements are counted.
-/

namespace CityMarkup

namespace Markup

/-- What is wrong with a marked-up text. -/
inductive Fault where
  | referenceNotClosed
  | tagMismatch (expected found : String)
  | nothingToClose (found : String)
  | doctypeUnnamed
  | instructionNotClosed
  | declarationNotClosed
  | commentNotClosed
  | characterDataNotClosed
  | doctypeNotClosed
  | tagNotClosed
  | attributeNotClosed (quote : Char)
  | unknownMarkup
deriving DecidableEq, Repr

/-- Something that has a beginning without its end. -/
def notClosed (subject ending : String) : String :=
  subject ++ " not closed: `" ++ ending ++ "` not found before end of input"

/-- The wording of a fault: what does not fit together, or what cannot be
split into tags. -/
def Fault.message : Fault → String
  | referenceNotClosed =>
    "ill-formed document: " ++ notClosed "entity or character reference" ";"
  | tagMismatch expected found =>
    "ill-formed document: expected `</" ++ expected ++ ">`, but `</" ++
      found ++ ">` was found"
  | nothingToClose found =>
    "ill-formed document: close tag `</" ++ found ++
      ">` does not match any open tag"
  | doctypeUnnamed =>
    "ill-formed document: `<!DOCTYPE>` declaration does not contain a name " ++
      "of a document type"
  | instructionNotClosed =>
    "syntax error: " ++ notClosed "processing instruction" "?>"
  | declarationNotClosed =>
    "syntax error: " ++ notClosed "XML declaration" "?>"
  | commentNotClosed => "syntax error: " ++ notClosed "comment" "-->"
  | characterDataNotClosed => "syntax error: " ++ notClosed "CDATA" "]]>"
  | doctypeNotClosed => "syntax error: " ++ notClosed "DOCTYPE" ">"
  | tagNotClosed => "syntax error: " ++ notClosed "tag" ">"
  | attributeNotClosed quote =>
    "syntax error: " ++ notClosed "attribute value" (String.singleton quote)
  | unknownMarkup => "syntax error: unknown or missed symbol in markup"

end Markup

end CityMarkup
