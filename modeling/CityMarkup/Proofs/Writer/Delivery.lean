import CityMarkup.Proofs.Encoding.Documents
import CityMarkup.Proofs.Storage.Saving
import CityMarkup.Proofs.Storage.Sinks
import CityMarkup.Proofs.Writer.Histories

/-!
# Handing out models

Encoding a model looks at nothing but the options of a writer.  Hence a used
writer hands out what a new one hands out.  All ways to hand out a model lead
to the same bytes, or to the same failure if the model is not encoded.
-/

namespace CityMarkup

/-! ## Outputs -/

/-- What a new writer answers when it is to encode a model and to render it. -/
def CityModel.output (o : Options) (m : CityModel) : Except Failure String :=
  ((do
    Writer.encode m
    Writer.render : Action Writer String).run (.new o)).result

namespace Writer

/-- An action that hands out the document of an encoded model hands out, right
after encoding, what depends on the options only. -/
theorem result_encode_then {x : Action Writer String}
    (hx : ∀ {w m}, ((encode m).run w).result = .ok () →
      x.run ((encode m).run w).state =
        ⟨.ok (String.ofList (m.document w.options)),
          ((encode m).run w).state, []⟩) (w : Writer) (m : CityModel) :
    ((do
      encode m
      x : Action Writer String).run w).result =
      w.options.validate.map fun _ => String.ofList (m.document w.options) := by
  cases h : w.options.validate with
  | error failure =>
      rw [Action.run_bind_error (run_encode_error h m)]
      rfl
  | ok done =>
      have hencode := run_encode_ok h m
      have hrun := hx (w := w) (m := m) (by rw [hencode])
      rw [hencode] at hrun
      rw [Action.run_bind_noted hencode hrun]
      rfl

end Writer

theorem CityModel.output_eq (o : Options) (m : CityModel) :
    m.output o = o.validate.map fun _ => String.ofList (m.document o) :=
  Writer.result_encode_then Writer.run_render (.new o) m

namespace Writer

theorem result_encode_render (w : Writer) (m : CityModel) :
    ((do
      encode m
      render : Action Writer String).run w).result = m.output w.options := by
  rw [m.output_eq]
  exact result_encode_then run_render w m

theorem result_encode_renderText (w : Writer) (m : CityModel) :
    ((do
      encode m
      renderText : Action Writer String).run w).result =
      m.output w.options := by
  rw [m.output_eq]
  exact result_encode_then run_renderText w m

end Writer

/-! ## Places -/

/-- A builder hands the bytes of its text to a place and answers what becomes
of them. -/
theorem Builder.save_of_render {τ : Type} {b : Builder} {text : String}
    (h : render.run b = ⟨.ok text, b, []⟩)
    (deliver : List UInt8 → τ → Except IoFault Unit × τ) (place : τ) :
    (b.save deliver place).1.result =
        (deliver (Utf8.encode text.toList) place).1.mapError .io ∧
      (b.save deliver place).2 =
        (deliver (Utf8.encode text.toList) place).2 := by
  rw [save, h]
  simp only
  rcases deliver (Utf8.encode text.toList) place with ⟨result, after⟩
  cases result with
  | ok done => exact ⟨rfl, rfl⟩
  | error fault => exact ⟨rfl, rfl⟩

namespace Writer

theorem result_record {α : Type} (done : Outcome Writer α) :
    (record done).result = done.result := by
  rw [record]
  split <;> rfl

/-- What a writer with an encoded model answers when it saves is what its
builder answers. -/
theorem save_of_isEncoded {τ : Type} {w : Writer} (h : w.isEncoded = true)
    (notice : Notice) (deliver : List UInt8 → τ → Except IoFault Unit × τ)
    (place : τ) :
    (w.save notice deliver place).1.result =
        (w.builder.save deliver place).1.result ∧
      (w.save notice deliver place).2 = (w.builder.save deliver place).2 := by
  rw [save, if_pos h]
  rcases w.builder.save deliver place with ⟨⟨result, b, notices⟩, after⟩
  cases result with
  | ok done => exact ⟨rfl, rfl⟩
  | error failure => exact ⟨result_record _, rfl⟩

/-- The answer when an output is handed to a place, and the place after that.
A failure is answered and the place is left alone. -/
def handOver {τ : Type} (output : Except Failure String)
    (deliver : List UInt8 → τ → Except IoFault Unit × τ) (place : τ) :
    Except Failure Unit × τ :=
  match output with
  | .error failure => (.error failure, place)
  | .ok text =>
    let done := deliver (Utf8.encode text.toList) place
    (done.1.mapError .io, done.2)

/-- The answer when a writer is to encode a model and to hand it to a place,
and the place after that.  Nothing is handed out if encoding fails. -/
def encodeThen {τ : Type} (m : CityModel)
    (save : Writer → Outcome Writer Unit × τ) (place : τ) (w : Writer) :
    Except Failure Unit × τ :=
  match ((encode m).run w).result with
  | .error failure => (.error failure, place)
  | .ok () =>
    let done := save ((encode m).run w).state
    (done.1.result, done.2)

theorem encodeThen_save {τ : Type} (notice : Notice)
    (deliver : List UInt8 → τ → Except IoFault Unit × τ) (place : τ)
    (w : Writer) (m : CityModel) :
    w.encodeThen m (save notice deliver place) place =
      handOver (m.output w.options) deliver place := by
  rw [m.output_eq]
  cases h : w.options.validate with
  | error failure =>
      rw [encodeThen, run_encode_error h m]
      rfl
  | ok done =>
      have hrender : Builder.render.run (m.encodedBuilder w.options) =
          ⟨.ok (String.ofList (m.document w.options)),
            m.encodedBuilder w.options, []⟩ :=
        Builder.run_render_closed (m.checkWellFormed_document h)
      obtain ⟨hresult, hplace⟩ :=
        Builder.save_of_render hrender deliver place
      let encoded : Writer :=
        ⟨w.options, m.encodedBuilder w.options, true, none⟩
      obtain ⟨hanswer, hafter⟩ :=
        save_of_isEncoded (w := encoded) rfl notice deliver place
      rw [encodeThen, run_encode_ok h m]
      exact Prod.ext (hanswer.trans hresult) (hafter.trans hplace)

/-! ## Models on their own -/

/-- The answer of a writer that saves, and the place after that. -/
def answered {τ : Type} (saved : Outcome Writer Unit × τ) :
    Except Failure Unit × τ :=
  (saved.1.result, saved.2)

theorem answered_saveWith {τ : Type} (o : Options) (m : CityModel)
    (save : Writer → Outcome Writer Unit × τ) (place : τ) :
    answered (m.saveWith o save place) =
      (Writer.new o).encodeThen m save place := by
  rw [CityModel.saveWith, encodeThen, answered]
  cases hresult : ((encode m).run (.new o)).result with
  | ok done => rfl
  | error failure =>
      simp only [hresult]

end Writer

/-- Whether an answer and the place after it are right for an output: all bytes
of the text are where they belong, or the failure is answered and the place is
as it was. -/
def Delivers {τ : Type} (output : Except Failure String) (place : τ)
    (holds : List UInt8 → τ → Prop) (answer : Except Failure Unit × τ) :
    Prop :=
  match output with
  | .ok text =>
    answer.1 = .ok () ∧ holds (Utf8.encode text.toList) answer.2
  | .error failure => answer = (.error failure, place)

theorem Delivers.exists_of_ok {τ : Type} {text : String} {place : τ}
    {holds : List UInt8 → τ → Prop} {answer : Except Failure Unit × τ}
    (h : Delivers (.ok text) place holds answer) :
    ∃ after, answer = (.ok (), after) ∧
      holds (Utf8.encode text.toList) after :=
  ⟨answer.2, Prod.ext h.1 rfl, h.2⟩

/-- Whether a way to save to sinks delivers an output to every sink that does
not fail. -/
def DeliversToSinks (output : Except Failure String)
    (save : Sink → Except Failure Unit × Sink) : Prop :=
  ∀ sink : Sink,
    (∀ text, output = .ok text →
      sink.Takes (Utf8.encode text.toList).length) →
    Delivers output sink (fun bytes after => after = sink.accept bytes)
      (save sink)

/-- Whether a way to save to files delivers an output to every path at which
saving does not fail. -/
def DeliversToFiles (output : Except Failure String)
    (save : String → Files → Except Failure Unit × Files) : Prop :=
  ∀ (path : String) (files : Files),
    (∀ text, output = .ok text →
      files.Accepts path (Utf8.encode text.toList).length) →
    Delivers output files
      (fun bytes after => after.contentAt? path = some bytes)
      (save path files)

theorem deliversToSinks_handOver (output : Except Failure String) :
    DeliversToSinks output (Writer.handOver output Sink.deliver) := by
  intro sink htakes
  cases output with
  | error failure => rfl
  | ok text =>
      have hdeliver := Sink.deliver_of_takes (htakes text rfl)
      rw [Writer.handOver, hdeliver]
      exact ⟨rfl, rfl⟩

theorem deliversToFiles_handOver (output : Except Failure String) :
    DeliversToFiles output fun path =>
      Writer.handOver output (Files.save path) := by
  intro path files haccepts
  cases output with
  | error failure => rfl
  | ok text =>
      obtain ⟨hresult, hcontent⟩ := Files.save_of_accepts (haccepts text rfl)
      simp only [Writer.handOver, Delivers]
      refine ⟨?_, hcontent⟩
      rw [hresult]
      rfl

/-- Whether all that a writer does to hand out a model gives an output. -/
structure Writer.HandsOut (w : Writer) (m : CityModel)
    (output : Except Failure String) : Prop where
  rendered : ((do
    encode m
    render : Action Writer String).run w).result = output
  text : ((do
    encode m
    renderText : Action Writer String).run w).result = output
  saved : ∀ {τ : Type} (notice : Notice)
    (deliver : List UInt8 → τ → Except IoFault Unit × τ) (place : τ),
    w.encodeThen m (save notice deliver place) place =
      handOver output deliver place
  sinks : DeliversToSinks output fun sink =>
    w.encodeThen m (saveToSink sink) sink
  files : DeliversToFiles output fun path files =>
    w.encodeThen m (saveToFile path files) files

/-- Whether all that hands out a model without a writer at hand gives an
output. -/
structure CityModel.HandsOut (m : CityModel) (o : Options)
    (output : Except Failure String) : Prop where
  text : (m.toText o).result = output
  sinks : DeliversToSinks output fun sink =>
    Writer.answered (m.saveToSink o sink)
  files : DeliversToFiles output fun path files =>
    Writer.answered (m.saveToFile o path files)

theorem Writer.handsOut (w : Writer) (m : CityModel) :
    w.HandsOut m (m.output w.options) where
  rendered := result_encode_render w m
  text := result_encode_renderText w m
  saved := fun notice deliver place =>
    encodeThen_save notice deliver place w m
  sinks := by
    have hsink : ∀ sink, w.encodeThen m (saveToSink sink) sink =
        handOver (m.output w.options) Sink.deliver sink :=
      fun sink => encodeThen_save .savedToStream Sink.deliver sink w m
    simp only [hsink]
    exact deliversToSinks_handOver _
  files := by
    have hfile : ∀ path files, w.encodeThen m (saveToFile path files) files =
        handOver (m.output w.options) (Files.save path) files :=
      fun path files =>
        encodeThen_save (.savedToFile path) (Files.save path) files w m
    simp only [hfile]
    exact deliversToFiles_handOver _

theorem CityModel.handsOut (o : Options) (m : CityModel) :
    m.HandsOut o (m.output o) where
  text := Writer.result_encode_renderText (.new o) m
  sinks := by
    simp only [saveToSink, Writer.answered_saveWith]
    exact (Writer.handsOut (.new o) m).sinks
  files := by
    simp only [saveToFile, Writer.answered_saveWith]
    exact (Writer.handsOut (.new o) m).files

/-- After any history a writer answers like a new one with the same options,
and so does everything else that hands out a model with these options. -/
theorem Writer.handsOut_after (o : Options) (m : CityModel)
    (history : List Writer.Operation) :
    let w := (Writer.new o).after history
    ((encode m).run w).result = ((encode m).run (.new o)).result ∧
      (render.run ((encode m).run w).state).result =
        (render.run ((encode m).run (.new o)).state).result ∧
      w.HandsOut m (m.output o) ∧
      m.HandsOut o (m.output o) ∧
      DeliversToSinks (m.output .standard)
        (fun sink => answered (m.toSink sink)) ∧
      DeliversToFiles (m.output .standard)
        (fun path files => answered (m.toFile path files)) := by
  intro w
  have hoptions : w.options = o := options_after (.new o) history
  refine ⟨?_, ?_, ?_, m.handsOut o, (m.handsOut .standard).sinks,
    (m.handsOut .standard).files⟩
  · rw [result_encode, result_encode, hoptions]
    rfl
  · cases hvalid : o.validate with
    | ok done =>
        have hused : w.options.validate = .ok () := by rw [hoptions, hvalid]
        have hfresh : (new o).options.validate = .ok () := hvalid
        rw [run_encode_ok hused, run_encode_ok hfresh, hoptions]
        rfl
    | error failure =>
        have hused : w.options.validate = .error failure := by
          rw [hoptions, hvalid]
        have hfresh : (new o).options.validate = .error failure := hvalid
        rw [run_encode_error hused, run_encode_error hfresh]
        rfl
  · rw [← hoptions]
    exact handsOut w m

/-- A writer whose document went to a sink that was soon full still saves the
whole next document. -/
theorem Writer.handsOut_after_park :
    let history : List Operation :=
      [.encode .park,
        .save .savedToStream Sink.deliver ⟨some 3, none, .reports, true, []⟩,
        .render]
    let w := (Writer.new .standard).after history
    ∃ (text : String) (saved : Files),
      CityModel.park.output .standard = .ok text ∧
        w.encodeThen .park (saveToFile "city.gml" .empty) .empty =
          (.ok (), saved) ∧
        saved.contentAt? "city.gml" = some (Utf8.encode text.toList) := by
  intro history w
  have houtput : CityModel.park.output .standard =
      .ok (String.ofList (CityModel.park.document .standard)) := by
    rw [CityModel.output_eq, Options.validate_standard]
    rfl
  have haccepts : ∀ size, Files.empty.Accepts "city.gml" size := fun size =>
    ⟨⟨[], by decide +kernel⟩, rfl, ⟨["city.gml"], by decide +kernel⟩⟩
  obtain ⟨-, -, hused, -⟩ := handsOut_after .standard .park history
  have hfile := hused.files "city.gml" .empty fun text _ => haccepts _
  rw [houtput] at hfile
  obtain ⟨saved, hanswer, hcontent⟩ := hfile.exists_of_ok
  exact ⟨_, saved, houtput, hanswer, hcontent⟩

end CityMarkup
