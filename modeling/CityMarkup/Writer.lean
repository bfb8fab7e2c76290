import CityMarkup.CityModel.Document
import CityMarkup.Storage.Files
import CityMarkup.Storage.Sink

/-!
# Writing models

A writer builds the document of one model at a time and hands it out as text,
to a sink or to a file.  It remembers the last failure since a model was given
to it.
-/

namespace CityMarkup

/-- A writer: its options, the document of the last model, and whether that
document may be handed out. -/
structure Writer where
  options : Options
  builder : Builder
  isEncoded : Bool
  failure : Option Failure
deriving Repr

namespace Writer

/-- A writer that has not been given a model. -/
def new (options : Options) : Writer :=
  ⟨options, .initial, false, none⟩

/-- The wording of the last failure. -/
def lastError (w : Writer) : Option String :=
  w.failure.map Failure.message

/-- Remembers a failure and gives notice of it. -/
def record {α : Type} (done : Outcome Writer α) : Outcome Writer α :=
  match done.result with
  | .ok _ => done
  | .error failure =>
    { done with
      state := { done.state with failure := some failure }
      notices := done.notices ++ [.writingFailed failure] }

/-- Puts a builder back into the writer after it has done something. -/
def afterBuilder {α : Type} (w : Writer) (done : Outcome Builder α) :
    Outcome Writer α :=
  ⟨done.result, { w with builder := done.state }, done.notices⟩

/-- Builds the document of a model, in the place of the last one. -/
def encode (m : CityModel) : Action Writer Unit := fun w =>
  let w := { w with isEncoded := false, failure := none }
  match w.options.validate with
  | .error failure => record ⟨.error failure, w, []⟩
  | .ok () =>
    let fresh := { Builder.initial with settings := m.settings w.options }
    let done := w.afterBuilder ((m.build w.options).run fresh)
    let isEncoded :=
      match done.result with
      | .ok _ => true
      | .error _ => false
    record { done with state := { done.state with isEncoded } }

/-- The document as text. -/
def render : Action Writer String := fun w =>
  record <|
    if w.isEncoded then
      w.afterBuilder (Builder.render.run w.builder)
    else
      ⟨.error (.state .nothingEncoded), w, []⟩

/-- The document as text, read back from its bytes. -/
def renderText : Action Writer String := fun w =>
  match render.run w with
  | ⟨.error failure, w, notices⟩ => ⟨.error failure, w, notices⟩
  | ⟨.ok text, w, notices⟩ =>
    match Utf8.decode (Utf8.encode text.toList) with
    | .ok cs => ⟨.ok (String.ofList cs), w, notices⟩
    | .error fault =>
      record ⟨.error (.document (.notText fault)), w, notices⟩

/-- Hands the document to a place and gives a notice when that has worked. -/
def save {τ : Type} (notice : Notice)
    (deliver : List UInt8 → τ → Except IoFault Unit × τ)
    (place : τ) (w : Writer) : Outcome Writer Unit × τ :=
  if w.isEncoded then
    let (done, place) := w.builder.save deliver place
    let done := w.afterBuilder done
    match done.result with
    | .ok () => ({ done with notices := done.notices ++ [notice] }, place)
    | .error _ => (record done, place)
  else
    (record ⟨.error (.state .nothingEncoded), w, []⟩, place)

/-- Hands the document to a sink. -/
def saveToSink (sink : Sink) (w : Writer) : Outcome Writer Unit × Sink :=
  w.save .savedToStream Sink.deliver sink

/-- Saves the document at a path. -/
def saveToFile (path : String) (files : Files) (w : Writer) :
    Outcome Writer Unit × Files :=
  w.save (.savedToFile path) (Files.save path) files

end Writer

/-- Builds the document of a model and hands it to a place, all with a writer
of its own. -/
def CityModel.saveWith {τ : Type} (o : Options) (m : CityModel)
    (save : Writer → Outcome Writer Unit × τ) (place : τ) :
    Outcome Writer Unit × τ :=
  let encoded := (Writer.encode m).run (.new o)
  match encoded.result with
  | .error _ => (encoded, place)
  | .ok () =>
    let (done, place) := save encoded.state
    ({ done with notices := encoded.notices ++ done.notices }, place)

/-- Writes a model to a sink. -/
def CityModel.saveToSink (o : Options) (m : CityModel) (sink : Sink) :
    Outcome Writer Unit × Sink :=
  m.saveWith o (Writer.saveToSink sink) sink

/-- Writes a model to a file. -/
def CityModel.saveToFile (o : Options) (m : CityModel) (path : String)
    (files : Files) : Outcome Writer Unit × Files :=
  m.saveWith o (Writer.saveToFile path files) files

/-- Writes a model with standard options to a sink. -/
def CityModel.toSink (m : CityModel) (sink : Sink) :
    Outcome Writer Unit × Sink :=
  m.saveToSink .standard sink

/-- Writes a model with standard options to a file. -/
def CityModel.toFile (m : CityModel) (path : String) (files : Files) :
    Outcome Writer Unit × Files :=
  m.saveToFile .standard path files

/-- The document of a model as text. -/
def CityModel.toText (o : Options) (m : CityModel) : Outcome Writer String :=
  (do
    Writer.encode m
    Writer.renderText : Action Writer String).run (.new o)

end CityMarkup
