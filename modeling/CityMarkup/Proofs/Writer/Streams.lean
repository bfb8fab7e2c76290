import CityMarkup.Proofs.Document.Recording
import CityMarkup.Proofs.Storage.Receivers
import CityMarkup.Proofs.Writer.Handover

/-!
# Documents in streams

A receiver is offered the bytes of a document when they are all there, and not
before.  What it takes is a beginning of them.  A document that cannot be
rendered is not offered at all.  If the receiver fails, the document stays as
it is and the fault is remembered.
-/

namespace CityMarkup

/-! ## Documents that are withheld -/

namespace Builder

/-- Whether there is no document to hand out.  The builder has failed, or there
is not exactly one open element, or the document is checked and rejected. -/
def Withholds (b : Builder) : Prop :=
  b.failure ≠ none ∨ b.stack.length ≠ 1 ∨ ∃ failure, b.Rejects failure

theorem exists_render_error_iff (b : Builder) :
    (∃ failure, (render.run b).result = .error failure) ↔ b.Withholds := by
  obtain ⟨s, stack, stored⟩ := b
  cases stored with
  | some failure => exact iff_of_true ⟨_, rfl⟩ (Or.inl (by rintro ⟨⟩))
  | none =>
      match stack with
      | [] => exact iff_of_true ⟨_, rfl⟩ (Or.inr (Or.inl Nat.zero_ne_one))
      | _ :: _ :: _ =>
          exact iff_of_true ⟨_, rfl⟩ (Or.inr (Or.inl (by simp)))
      | [root] =>
          have hrejects : Withholds ⟨s, [root], none⟩ ↔
              s.validates = true ∧ ∃ failure,
                Markup.checkWellFormed (Utf8.encode (renderRoot s root)) =
                  .error failure := by
            simp [Withholds, Rejects]
          rw [hrejects]
          simp only [render, withOpen, List.isEmpty_nil, ↓reduceIte,
            Action.run]
          by_cases hvalidates : s.validates = true
          · simp only [hvalidates, if_true, true_and]
            cases Markup.checkWellFormed (Utf8.encode (renderRoot s root)) with
            | ok done =>
                exact iff_of_false (by rintro ⟨_, ⟨⟩⟩) (by rintro ⟨_, ⟨⟩⟩)
            | error failure => exact iff_of_true ⟨failure, rfl⟩ ⟨failure, rfl⟩
          · simp only [hvalidates]
            exact iff_of_false (by rintro ⟨_, ⟨⟩⟩) (by rintro ⟨⟨⟩, -⟩)

end Builder

theorem Writer.exists_render_error_iff (w : Writer) :
    (∃ failure, (render.run w).result = .error failure) ↔
      w.isEncoded = false ∨ w.builder.Withholds := by
  cases h : w.isEncoded with
  | false =>
      rw [run_render_of_not_isEncoded h]
      exact iff_of_true ⟨_, rfl⟩ (Or.inl rfl)
  | true =>
      rw [result_render_of_isEncoded h, Builder.exists_render_error_iff]
      exact (or_iff_right (by rintro ⟨⟩)).symm

/-! ## What is taken -/

/-- Whether a receiver has taken a beginning of what has been rendered.  Saving
works exactly if it has taken all of it and finishes, and otherwise fails with
the fault that the receiver gives.  If there is nothing to save, the receiver is
not touched. -/
structure Receiver.TakesBeginning {σ : Type} (r : Receiver σ) (s : σ)
    (rendering : Except Failure String)
    (answer : Except Failure Unit × Intake σ) : Prop where
  begun : ∀ text, rendering = .ok text →
    answer.2.taken <+: Utf8.encode text.toList
  works : answer.1 = .ok () ↔ ∃ text, rendering = .ok text ∧
    answer.2.taken = Utf8.encode text.toList ∧
    r.Finishes (Utf8.encode text.toList) ⟨s, []⟩
  faulty : ∀ text, rendering = .ok text → ∀ failure,
    answer.1 = .error failure → ∃ fault rest, failure = .io fault ∧
      answer.2.taken ++ rest = Utf8.encode text.toList ∧
      r.Gives rest answer.2.state fault
  withheld : ∀ failure, rendering = .error failure →
    answer = (.error failure, ⟨s, []⟩)

/-- The same for a sink, which may have accepted other bytes before. -/
structure Sink.TakesBeginning (s : Sink) (rendering : Except Failure String)
    (answer : Except Failure Unit × Sink) : Prop where
  begun : ∀ text, rendering = .ok text →
    ∃ passed, passed <+: Utf8.encode text.toList ∧
      answer.2 = s.accept passed ∧
      (answer.1 = .ok () ↔
        passed = Utf8.encode text.toList ∧ s.flushes = true) ∧
      ∀ failure, answer.1 = .error failure → ∃ fault rest,
        failure = .io fault ∧ passed ++ rest = Utf8.encode text.toList ∧
        receiver.Gives rest answer.2 fault
  withheld : ∀ failure, rendering = .error failure →
    answer = (.error failure, s)

theorem mapError_eq_ok_iff {ε ε' : Type} {f : ε → ε'}
    {result : Except ε Unit} :
    result.mapError f = .ok () ↔ result = .ok () := by
  cases result with
  | ok done => exact iff_of_true rfl rfl
  | error fault => exact iff_of_false (by rintro ⟨⟩) (by rintro ⟨⟩)

theorem exists_of_mapError_eq_error {ε ε' : Type} {f : ε → ε'}
    {result : Except ε Unit} {failure : ε'}
    (h : result.mapError f = .error failure) :
    ∃ fault, result = .error fault ∧ failure = f fault := by
  cases result with
  | ok done => cases h
  | error fault =>
      cases h
      exact ⟨fault, rfl, rfl⟩

theorem Receiver.takesBeginning_handOver {σ : Type} (r : Receiver σ) (s : σ)
    (rendering : Except Failure String) :
    r.TakesBeginning s rendering
      (Writer.handOver rendering r.deliver ⟨s, []⟩) := by
  cases rendering with
  | error failure =>
      exact
        { begun := by rintro _ ⟨⟩
          works := iff_of_false (by rintro ⟨⟩) (by rintro ⟨_, ⟨⟩, -⟩)
          faulty := by rintro _ ⟨⟩
          withheld := by
            rintro _ ⟨⟩
            rfl }
  | ok text =>
      obtain ⟨passed, hpassed, htaken, hworks, hgives⟩ :=
        r.exists_deliver (Utf8.encode text.toList) ⟨s, []⟩
      obtain rfl : (r.deliver (Utf8.encode text.toList) ⟨s, []⟩).2.taken =
          passed := htaken
      refine
        { begun := ?_
          works := mapError_eq_ok_iff.trans (hworks.trans ⟨?_, ?_⟩)
          faulty := ?_
          withheld := by rintro _ ⟨⟩ }
      · rintro _ ⟨⟩
        exact hpassed
      · exact fun h => ⟨text, rfl, h⟩
      · rintro ⟨_, ⟨⟩, h⟩
        exact h
      · rintro _ ⟨⟩ failure hfailure
        obtain ⟨fault, hfault, rfl⟩ := exists_of_mapError_eq_error hfailure
        obtain ⟨rest, hrest, hgiven⟩ := hgives fault hfault
        exact ⟨fault, rest, rfl, hrest, hgiven⟩

theorem Sink.takesBeginning_handOver (s : Sink)
    (rendering : Except Failure String) :
    s.TakesBeginning rendering
      (Writer.handOver rendering Sink.deliver s) := by
  cases rendering with
  | error failure =>
      refine ⟨by rintro _ ⟨⟩, ?_⟩
      rintro _ ⟨⟩
      rfl
  | ok text =>
      obtain ⟨passed, hpassed, hafter, hworks, hgives⟩ :=
        s.exists_deliver (Utf8.encode text.toList)
      refine ⟨?_, by rintro _ ⟨⟩⟩
      rintro _ ⟨⟩
      refine ⟨passed, hpassed, hafter, mapError_eq_ok_iff.trans hworks, ?_⟩
      intro failure hfailure
      obtain ⟨fault, hfault, rfl⟩ := exists_of_mapError_eq_error hfailure
      obtain ⟨rest, hrest, hgiven⟩ := hgives fault hfault
      exact ⟨fault, rest, rfl, hrest, hafter.symm ▸ hgiven⟩

/-! ## What is remembered -/

/-- Whether saving has left a builder as it was, but for a fault of the place
in which the document was to go.  From then on the builder answers with that
fault. -/
structure Builder.Remembers (b : Builder) (done : Outcome Builder Unit) :
    Prop where
  worked : done.result = .ok () → done.state = b
  failed : ∀ text, (render.run b).result = .ok text →
    ∀ failure, done.result = .error failure →
      (∃ fault, failure = .io fault) ∧
        done.state = { b with failure := some failure } ∧
        done.state.Answers failure

theorem Builder.answers_io {b : Builder} {fault : IoFault} :
    Answers { b with failure := some (.io fault) } (.io fault) :=
  answers_failed (by rintro _ ⟨⟩; rfl) rfl

theorem Builder.remembers_save {τ : Type} (b : Builder)
    (deliver : List UInt8 → τ → Except IoFault Unit × τ) (place : τ) :
    b.Remembers (b.save deliver place).1 := by
  cases h : (render.run b).result with
  | error failure =>
      rw [save_of_error deliver place h]
      refine ⟨by rintro ⟨⟩, ?_⟩
      intro text htext
      cases h.symm.trans htext
  | ok text =>
      rw [save_of_ok deliver place h]
      rcases deliver (Utf8.encode text.toList) place with ⟨result, after⟩
      cases result with
      | ok done => exact ⟨fun _ => rfl, by rintro _ - _ ⟨⟩⟩
      | error fault =>
          refine ⟨by rintro ⟨⟩, ?_⟩
          rintro _ - _ ⟨⟩
          exact ⟨⟨fault, rfl⟩, rfl, answers_io⟩

/-- The same for a writer, which remembers the fault as its builder does. -/
structure Writer.Remembers (w : Writer) (done : Outcome Writer Unit) :
    Prop where
  worked : done.result = .ok () → done.state = w
  failed : ∀ text, (render.run w).result = .ok text →
    ∀ failure, done.result = .error failure →
      (∃ fault, failure = .io fault) ∧
        done.state = { w with
          builder := { w.builder with failure := some failure }
          failure := some failure } ∧
        done.state.builder.Answers failure

theorem Writer.remembers_save {τ : Type} (w : Writer) (notice : Notice)
    (deliver : List UInt8 → τ → Except IoFault Unit × τ) (place : τ) :
    w.Remembers (w.save notice deliver place).1 := by
  cases h : (render.run w).result with
  | error failure =>
      rw [save_of_error notice deliver place h]
      refine ⟨by rintro ⟨⟩, ?_⟩
      intro text htext
      cases h.symm.trans htext
  | ok text =>
      rw [save_of_ok notice deliver place h]
      rcases deliver (Utf8.encode text.toList) place with ⟨result, after⟩
      cases result with
      | ok done => exact ⟨fun _ => rfl, by rintro _ - _ ⟨⟩⟩
      | error fault =>
          refine ⟨by rintro ⟨⟩, ?_⟩
          rintro _ - _ ⟨⟩
          exact ⟨⟨fault, rfl⟩, rfl, Builder.answers_io⟩

/-- Whatever takes the bytes of a document, and whatever state a builder or a
writer is in, a beginning of the document is taken, all of it if saving works,
and nothing if there is no document to hand out.  If the receiver gives a fault,
saving fails with this fault, which is remembered and changes nothing else. -/
theorem Writer.saveToSink_takesBeginning {σ : Type} (r : Receiver σ) (s : σ)
    (sink : Sink) :
    (∀ b : Builder,
        ((∃ failure, (Builder.render.run b).result = .error failure) ↔
          b.Withholds) ∧
        r.TakesBeginning s (Builder.render.run b).result
          (Builder.answered (b.save r.deliver ⟨s, []⟩)) ∧
        b.Remembers (b.save r.deliver ⟨s, []⟩).1 ∧
        sink.TakesBeginning (Builder.render.run b).result
          (Builder.answered (b.save Sink.deliver sink)) ∧
        b.Remembers (b.save Sink.deliver sink).1) ∧
      ∀ w : Writer,
        ((∃ failure, (render.run w).result = .error failure) ↔
          w.isEncoded = false ∨ w.builder.Withholds) ∧
        r.TakesBeginning s (render.run w).result
          (answered (w.save .savedToStream r.deliver ⟨s, []⟩)) ∧
        w.Remembers (w.save .savedToStream r.deliver ⟨s, []⟩).1 ∧
        sink.TakesBeginning (render.run w).result
          (answered (w.saveToSink sink)) ∧
        w.Remembers (w.saveToSink sink).1 := by
  constructor
  · intro b
    rw [Builder.answered_save, Builder.answered_save]
    exact ⟨b.exists_render_error_iff, r.takesBeginning_handOver s _,
      b.remembers_save r.deliver _, sink.takesBeginning_handOver _,
      b.remembers_save Sink.deliver sink⟩
  · intro w
    rw [saveToSink, answered_save, answered_save]
    exact ⟨w.exists_render_error_iff, r.takesBeginning_handOver s _,
      w.remembers_save .savedToStream r.deliver _,
      sink.takesBeginning_handOver _,
      w.remembers_save .savedToStream Sink.deliver sink⟩

/-- A sink without limits is handed a whole document. -/
theorem Writer.saveToSink_takesBeginning_park :
    let w := ((encode .park).run (.new .standard)).state
    ∃ text, (render.run w).result = .ok text ∧
      answered (w.saveToSink .unlimited) =
        (.ok (), Sink.unlimited.accept (Utf8.encode text.toList)) := by
  intro w
  obtain ⟨text, hrender⟩ : ∃ text, (render.run w).result = .ok text :=
    exists_render Options.validate_standard .park
  have htakes : Sink.unlimited.Takes (Utf8.encode text.toList).length :=
    ⟨rfl, by decide, by rintro _ ⟨⟩⟩
  have hworks : (answered (w.saveToSink .unlimited)).1 = .ok () := by
    rw [saveToSink, answered_save, hrender, handOver,
      Sink.deliver_of_takes htakes]
    rfl
  obtain ⟨-, hwriter⟩ :=
    saveToSink_takesBeginning Sink.receiver .unlimited .unlimited
  obtain ⟨-, -, -, hsink, -⟩ := hwriter w
  obtain ⟨passed, -, hafter, hall, -⟩ := hsink.begun text hrender
  obtain ⟨rfl, -⟩ := hall.mp hworks
  exact ⟨text, hrender, Prod.ext hworks hafter⟩

end CityMarkup
