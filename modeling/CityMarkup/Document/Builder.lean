import CityMarkup.Action
import CityMarkup.Document.Settings
import CityMarkup.Markup.WellFormed

/-!
# Building a document

A builder keeps the elements that are open, the document element at the
bottom.  Closing an element hands it to the one below it.  After a failure
the builder answers every call with that failure until a new document is
begun.
-/

namespace CityMarkup

/-- An element whose end has not come yet. -/
structure OpenElement where
  name : String
  attributes : List (String × String)
  children : List Node
deriving Repr

namespace OpenElement

/-- The element as it stands. -/
def toNode (e : OpenElement) : Node :=
  .element e.name e.attributes e.children

/-- Adds a node after the others. -/
def push (e : OpenElement) (node : Node) : OpenElement :=
  { e with children := e.children ++ [node] }

/-- Gives an attribute of the element a value. -/
def setAttribute (e : OpenElement) (name value : String) : OpenElement :=
  { e with attributes := CityMarkup.setAttribute name value e.attributes }

end OpenElement

/-- A document in the making.  The innermost open element comes first. -/
structure Builder where
  settings : Settings
  stack : List OpenElement
  failure : Option Failure
deriving Repr

namespace Builder

/-- A builder without a document. -/
def initial : Builder :=
  ⟨.initial, [], none⟩

instance : Inhabited Builder := ⟨initial⟩

/-- Changes the settings. -/
def configure (b : Builder) (f : Settings → Settings) : Builder :=
  { b with settings := f b.settings }

/-- Whether the builder remembers a failure. -/
def hasFailed (b : Builder) : Bool :=
  b.failure.isSome

/-- The wording of the failure that the builder remembers. -/
def lastError (b : Builder) : Option String :=
  b.failure.map Failure.message

/-- Fails and remembers it. -/
def fail {α : Type} (failure : Failure) : Action Builder α := fun b =>
  ⟨.error failure, { b with failure := some failure.remembered },
    [.failed failure]⟩

/-- Begins a new document and forgets everything about the last one. -/
def createDocument (name : String) (ns : Namespace) : Action Builder Unit :=
  .modify fun b =>
    { b with
      stack :=
        [⟨b.settings.qualify name ns, b.settings.declarationAttributes, []⟩]
      failure := none }

/-- Works on the innermost open element and the ones around it, unless the
builder has failed or has no document. -/
def withOpen {α : Type}
    (f : OpenElement → List OpenElement → Action Builder α) :
    Action Builder α := fun b =>
  match b.failure, b.stack with
  | some failure, _ => ⟨.error failure.remembered, b, []⟩
  | none, [] => fail (.state .noDocument) b
  | none, innermost :: outer => f innermost outer b

/-- Opens an element. -/
def startElement (name : String) (ns : Namespace) : Action Builder Unit :=
  withOpen fun innermost outer => .modify fun b =>
    { b with
      stack := ⟨b.settings.qualify name ns, [], []⟩ :: innermost :: outer }

/-- Closes the innermost element, which may not be the document element. -/
def endElement : Action Builder Unit :=
  withOpen fun innermost outer =>
    match outer with
    | [] => fail (.state .nothingToClose)
    | parent :: outer => .modify fun b =>
      { b with stack := parent.push innermost.toNode :: outer }

/-- Gives an attribute of the innermost element a value. -/
def writeAttribute (name value : String) : Action Builder Unit :=
  withOpen fun innermost outer => .modify fun b =>
    { b with stack := innermost.setAttribute name value :: outer }

/-- Adds text to the innermost element. -/
def writeText (value : String) : Action Builder Unit :=
  withOpen fun innermost outer => .modify fun b =>
    { b with stack := innermost.push (.text value) :: outer }

/-- Opens an element, adds text to it and closes it. -/
def writeTextElement (name : String) (ns : Namespace) (value : String) :
    Action Builder Unit := do
  startElement name ns
  writeText value
  endElement

/-- Opens an element, adds text to it and closes it, unless the text is
empty. -/
def writeOptionalText (name : String) (ns : Namespace) (value : String) :
    Action Builder Unit :=
  .when (!value.isEmpty) (writeTextElement name ns value)

/-- Gives the innermost element an identifier, unless that is empty. -/
def writeIdentity (id : String) : Action Builder Unit :=
  .when (!id.isEmpty) (writeAttribute "gml:id" id)

/-- The document as text, whatever is still open inside of its document
element. -/
def renderRoot (settings : Settings) (root : OpenElement) : List Char :=
  Markup.renderDocument settings.layout settings.encoding root.toNode

/-- The document as text.  All elements but the document element must be
closed, and the text is checked if the settings ask for it. -/
def render : Action Builder String :=
  withOpen fun root outer =>
    if outer.isEmpty then fun b =>
      let text := renderRoot b.settings root
      let checked :=
        if b.settings.validates then
          Markup.checkWellFormed (Utf8.encode text)
        else
          .ok ()
      match checked with
      | .ok () => ⟨.ok (String.ofList text), b, []⟩
      | .error failure => fail failure b
    else
      fail (.state (.stillOpen outer.length))

/-- Hands the bytes of the document to a place.  The place is left alone if
there is no document to hand out. -/
def save {τ : Type}
    (deliver : List UInt8 → τ → Except IoFault Unit × τ)
    (place : τ) (b : Builder) : Outcome Builder Unit × τ :=
  match render.run b with
  | ⟨.error failure, b, notices⟩ => (⟨.error failure, b, notices⟩, place)
  | ⟨.ok text, b, notices⟩ =>
    match deliver (Utf8.encode text.toList) place with
    | (.ok (), place) => (⟨.ok (), b, notices⟩, place)
    | (.error fault, place) =>
      let failed := (fail (.io fault)).run b
      (⟨failed.result, failed.state, notices ++ failed.notices⟩, place)

section OpenDocument

variable (s : Settings) (e : OpenElement) (outer : List OpenElement)

theorem run_startElement (name : String) (ns : Namespace) :
    (startElement name ns).run ⟨s, e :: outer, none⟩ =
      ⟨.ok (), ⟨s, ⟨s.qualify name ns, [], []⟩ :: e :: outer, none⟩, []⟩ :=
  rfl

theorem run_endElement (parent : OpenElement) :
    endElement.run ⟨s, e :: parent :: outer, none⟩ =
      ⟨.ok (), ⟨s, parent.push e.toNode :: outer, none⟩, []⟩ :=
  rfl

theorem run_writeAttribute (name value : String) :
    (writeAttribute name value).run ⟨s, e :: outer, none⟩ =
      ⟨.ok (), ⟨s, e.setAttribute name value :: outer, none⟩, []⟩ :=
  rfl

theorem run_writeText (value : String) :
    (writeText value).run ⟨s, e :: outer, none⟩ =
      ⟨.ok (), ⟨s, e.push (.text value) :: outer, none⟩, []⟩ :=
  rfl

end OpenDocument

end Builder

end CityMarkup
