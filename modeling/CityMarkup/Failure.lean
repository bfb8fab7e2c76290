import CityMarkup.Markup.Fault
import CityMarkup.Text.Utf8

/-!
# Failures

Why a document could not be built, written or checked.  Each failure has a
code and a wording.  Faults that are reported from outside carry their own
wording.
-/

namespace CityMarkup

/-- What is wrong with a document as a whole. -/
inductive StructureFault where
  | notText (fault : Utf8.Fault)
  | unclosed (count : Nat)
  | documentElements (count : Nat)
  | other (text : String)
deriving DecidableEq, Repr

/-- Why an operation does not fit the state of a document. -/
inductive StateFault where
  | noDocument
  | nothingToClose
  | stillOpen (count : Nat)
  | nothingEncoded
  | other (text : String)
deriving DecidableEq, Repr

/-- Why bytes could not be stored. -/
inductive IoFault where
  | notFound
  | busy
  | notDirectory
  | isDirectory
  | invalidArgument
  | noSpace
  | nameTooLong
  | nulInName
  | sinkFull
  | sinkStuck
  | flushFailed
  | other (text : String)
deriving DecidableEq, Repr

/-- What is not supported. -/
inductive UnsupportedFault where
  | encoding (name : String)
  | other (text : String)
deriving DecidableEq, Repr

/-- Why an operation failed. -/
inductive Failure where
  | io (fault : IoFault)
  | markup (fault : Markup.Fault)
  | document (fault : StructureFault)
  | writing (text : String)
  | state (fault : StateFault)
  | unsupported (fault : UnsupportedFault)
deriving DecidableEq, Repr

/-- The wording of a fault in the structure of a document. -/
def StructureFault.message : StructureFault → String
  | notText fault => fault.message
  | unclosed count => toString count ++ " unclosed element(s)"
  | documentElements count =>
    "expected one document element, found " ++ toString count
  | other text => text

/-- The wording of a fault in the state of a document. -/
def StateFault.message : StateFault → String
  | noDocument => "no document has been created"
  | nothingToClose => "end_element called with no open child element"
  | stillOpen count => toString count ++ " element(s) still open at save time"
  | nothingEncoded => "no model has been encoded"
  | other text => text

/-- The wording of a fault in storing bytes. -/
def IoFault.message : IoFault → String
  | notFound => "No such file or directory (os error 2)"
  | busy => "Device or resource busy (os error 16)"
  | notDirectory => "Not a directory (os error 20)"
  | isDirectory => "Is a directory (os error 21)"
  | invalidArgument => "Invalid argument (os error 22)"
  | noSpace => "No space left on device (os error 28)"
  | nameTooLong => "File name too long (os error 36)"
  | nulInName => "file name contained an unexpected NUL byte"
  | sinkFull => "sink full"
  | sinkStuck => "failed to write whole buffer"
  | flushFailed => "flush failed"
  | other text => text

/-- The wording of something not supported. -/
def UnsupportedFault.message : UnsupportedFault → String
  | encoding name =>
    "output encoding '" ++ name ++ "' (only UTF-8 is supported)"
  | other text => text

namespace Failure

/-- The wording of a failure, with its code. -/
def message : Failure → String
  | io fault => "[E1001] I/O error: " ++ fault.message
  | markup fault => "[E2001] XML error: " ++ fault.message
  | document fault => "[E2003] Invalid XML structure: " ++ fault.message
  | writing text => "[E2005] XML writing error: " ++ text
  | state fault => "[E2006] Document state error: " ++ fault.message
  | unsupported fault => "[E4001] Unsupported feature: " ++ fault.message

/-- The form in which a builder remembers a failure.  A fault found in marked
up text is remembered as a failure of writing with the same wording. -/
def remembered : Failure → Failure
  | markup fault => writing fault.message
  | failure => failure

theorem remembered_remembered (f : Failure) :
    f.remembered.remembered = f.remembered := by
  cases f <;> rfl

end Failure

end CityMarkup
