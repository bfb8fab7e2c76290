import CityMarkup.Proofs.Writer.Delivery

/-!
# Handing over what is rendered

Saving renders first.  If that fails nothing else is done, and saving ends in
the same way.  Otherwise rendering has changed nothing, and the place to which
the bytes go decides.  This holds in every state of a builder and of a writer.
-/

namespace CityMarkup

namespace Builder

variable {b : Builder}

theorem run_render_of_ok {text : String}
    (h : (render.run b).result = .ok text) :
    render.run b = ⟨.ok text, b, []⟩ := by
  obtain ⟨s, stack, stored⟩ := b
  cases stored with
  | some failure => cases h
  | none =>
      cases stack with
      | nil => cases h
      | cons root outer =>
          cases outer with
          | cons parent outer => cases h
          | nil =>
              simp only [render, withOpen, List.isEmpty_nil, ↓reduceIte,
                Action.run] at h ⊢
              split at h
              next => rw [Except.ok.inj h]
              next => cases h

section Saving

variable {τ : Type} (deliver : List UInt8 → τ → Except IoFault Unit × τ)
  (place : τ)

/-- What a builder does with a document that it can render.  A fault of the
place is remembered, and nothing else is changed. -/
theorem save_of_ok {text : String} (h : (render.run b).result = .ok text) :
    b.save deliver place =
      match deliver (Utf8.encode text.toList) place with
      | (.ok (), after) => (⟨.ok (), b, []⟩, after)
      | (.error fault, after) =>
        (⟨.error (.io fault), { b with failure := some (.io fault) },
          [.failed (.io fault)]⟩, after) := by
  rw [save, run_render_of_ok h]
  rfl

/-- A document that cannot be rendered is not handed over. -/
theorem save_of_error {failure : Failure}
    (h : (render.run b).result = .error failure) :
    b.save deliver place =
      (⟨.error failure, (render.run b).state, (render.run b).notices⟩,
        place) := by
  rw [save]
  rcases hrun : render.run b with ⟨result, c, notices⟩
  rw [hrun] at h
  obtain rfl : result = .error failure := h
  rfl

/-- The answer of a builder that saves, and the place after that. -/
def answered (saved : Outcome Builder Unit × τ) : Except Failure Unit × τ :=
  (saved.1.result, saved.2)

theorem answered_save (b : Builder) :
    answered (b.save deliver place) =
      Writer.handOver (render.run b).result deliver place := by
  cases h : (render.run b).result with
  | error failure =>
      rw [save_of_error deliver place h]
      rfl
  | ok text =>
      rw [save_of_ok deliver place h, Writer.handOver]
      rcases deliver (Utf8.encode text.toList) place with ⟨result, after⟩
      cases result with
      | ok done => rfl
      | error fault => rfl

end Saving

end Builder

namespace Writer

variable {w : Writer}

theorem run_render_of_not_isEncoded (h : w.isEncoded = false) :
    render.run w =
      ⟨.error (.state .nothingEncoded),
        { w with failure := some (.state .nothingEncoded) },
        [.writingFailed (.state .nothingEncoded)]⟩ := by
  obtain ⟨o, b, isEncoded, stored⟩ := w
  obtain rfl : isEncoded = false := h
  rfl

theorem run_render_of_isEncoded (h : w.isEncoded = true) :
    render.run w = record (w.afterBuilder (Builder.render.run w.builder)) := by
  rw [Action.run, render, if_pos h]

theorem result_render_of_isEncoded (h : w.isEncoded = true) :
    (render.run w).result = (Builder.render.run w.builder).result := by
  rw [run_render_of_isEncoded h, result_record]
  rfl

theorem isEncoded_of_render {text : String}
    (h : (render.run w).result = .ok text) : w.isEncoded = true := by
  cases hencoded : w.isEncoded with
  | true => rfl
  | false =>
      rw [run_render_of_not_isEncoded hencoded] at h
      cases h

theorem run_render_of_ok {text : String}
    (h : (render.run w).result = .ok text) :
    render.run w = ⟨.ok text, w, []⟩ := by
  have hencoded := isEncoded_of_render h
  rw [result_render_of_isEncoded hencoded] at h
  rw [run_render_of_isEncoded hencoded, Builder.run_render_of_ok h]
  rfl

section Saving

variable (notice : Notice) {τ : Type}
  (deliver : List UInt8 → τ → Except IoFault Unit × τ) (place : τ)

/-- What a writer does with a document that it can render.  A fault of the
place is remembered by the writer and by its builder. -/
theorem save_of_ok {text : String} (h : (render.run w).result = .ok text) :
    w.save notice deliver place =
      match deliver (Utf8.encode text.toList) place with
      | (.ok (), after) => (⟨.ok (), w, [notice]⟩, after)
      | (.error fault, after) =>
        (⟨.error (.io fault),
          { w with
            builder := { w.builder with failure := some (.io fault) }
            failure := some (.io fault) },
          [.failed (.io fault), .writingFailed (.io fault)]⟩, after) := by
  have hencoded := isEncoded_of_render h
  rw [result_render_of_isEncoded hencoded] at h
  rw [save, if_pos hencoded, Builder.save_of_ok deliver place h]
  rcases deliver (Utf8.encode text.toList) place with ⟨result, after⟩
  cases result with
  | ok done => rfl
  | error fault => rfl

/-- A document that cannot be rendered is not handed over. -/
theorem save_of_error {failure : Failure}
    (h : (render.run w).result = .error failure) :
    w.save notice deliver place =
      (⟨.error failure, (render.run w).state, (render.run w).notices⟩,
        place) := by
  cases hencoded : w.isEncoded with
  | false =>
      rw [run_render_of_not_isEncoded hencoded] at h ⊢
      obtain rfl := Except.error.inj h
      rw [save, if_neg (Bool.eq_false_iff.mp hencoded)]
      rfl
  | true =>
      rw [result_render_of_isEncoded hencoded] at h
      rw [save, if_pos hencoded, run_render_of_isEncoded hencoded,
        Builder.save_of_error deliver place h]
      rcases hrun : Builder.render.run w.builder with ⟨result, c, notices⟩
      rw [hrun] at h
      obtain rfl : result = .error failure := h
      rfl

theorem answered_save (w : Writer) :
    answered (w.save notice deliver place) =
      handOver (render.run w).result deliver place := by
  cases h : (render.run w).result with
  | error failure =>
      rw [save_of_error notice deliver place h]
      rfl
  | ok text =>
      rw [save_of_ok notice deliver place h, handOver]
      rcases deliver (Utf8.encode text.toList) place with ⟨result, after⟩
      cases result with
      | ok done => rfl
      | error fault => rfl

/-- The same for a model that is handed over by a writer of its own. -/
theorem answered_saveWith_save (o : Options) (m : CityModel) :
    answered (m.saveWith o (save notice deliver place) place) =
      handOver (m.output o) deliver place := by
  rw [answered_saveWith, encodeThen_save]
  rfl

end Saving

end Writer

end CityMarkup
