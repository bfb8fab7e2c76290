import CityMarkup.Proofs.Document.Stickiness

/-!
# Failures are recorded

An operation that fails on a builder without a failure leaves its failure with
the builder, in the form in which failures are remembered, and the builder
answers with that form from then on.  The wording is the one that was returned,
code included, with one exception.  A fault that the check of a document finds
in its text is returned as a fault of marked-up text, but remembered as a
failure of writing, under another code.
-/

namespace CityMarkup

/-! ## Wording -/

/-- The remembered form of a failure is worded differently exactly if the
failure is a fault of marked-up text. -/
theorem Failure.message_remembered_iff (failure : Failure) :
    failure.remembered.message = failure.message ↔
      ∀ fault, failure ≠ .markup fault := by
  cases failure with
  | markup fault =>
      have hne : "[E2005] XML writing error: " ++ fault.message ≠
          "[E2001] XML error: " ++ fault.message :=
        append_ne_of_take (n := 7) (by decide) (by decide) (by decide) _ _
      exact iff_of_false hne fun h => h fault rfl
  | io fault => exact iff_of_true rfl (by rintro _ ⟨⟩)
  | document fault => exact iff_of_true rfl (by rintro _ ⟨⟩)
  | writing text => exact iff_of_true rfl (by rintro _ ⟨⟩)
  | state fault => exact iff_of_true rfl (by rintro _ ⟨⟩)
  | unsupported fault => exact iff_of_true rfl (by rintro _ ⟨⟩)

namespace Builder

/-! ## How operations end -/

/-- How something ends that began without a failure: it has worked and there is
no failure, or it fails for one of some reasons and its failure is
remembered. -/
inductive Ends {α : Type} (reason : Failure → Prop) :
    Except Failure α → Builder → Prop where
  | worked (a : α) {c : Builder} (h : c.failure = none) :
      Ends reason (.ok a) c
  | failed {failure : Failure} {c : Builder} (hreason : reason failure)
      (h : c.failure = some failure.remembered) :
      Ends reason (.error failure) c

section Ends

variable {α : Type} {reason : Failure → Prop}

theorem Ends.mono {other : Failure → Prop} {result : Except Failure α}
    {c : Builder} (h : Ends reason result c)
    (hother : ∀ failure, reason failure → other failure) :
    Ends other result c := by
  cases h with
  | worked a h => exact .worked a h
  | failed hreason h => exact .failed (hother _ hreason) h

theorem ends_fail {failure : Failure} (h : reason failure) (b : Builder) :
    Ends (α := α) reason ((fail failure).run b).result
      ((fail (α := α) failure).run b).state :=
  .failed h rfl

end Ends

/-- Whether a failure is a fault in the state of a document. -/
def IsOfState (failure : Failure) : Prop :=
  ∃ fault, failure = .state fault

/-- Whether the document of a builder is checked when it is handed out, and
rejected with a failure. -/
def Rejects (b : Builder) (failure : Failure) : Prop :=
  b.settings.validates = true ∧ ∃ root, b.stack = [root] ∧
    Markup.checkWellFormed (Utf8.encode (renderRoot b.settings root)) =
      .error failure

theorem ends_action (call : Call) {b : Builder} (hnone : b.failure = none) :
    Ends IsOfState (call.action.run b).result (call.action.run b).state := by
  obtain ⟨s, stack, stored⟩ := b
  obtain rfl : stored = none := hnone
  have hclosed : IsOfState (.state .noDocument) := ⟨_, rfl⟩
  cases stack with
  | nil =>
      cases call with
      | start name ns => exact .failed hclosed rfl
      | finish => exact .failed hclosed rfl
      | set name value => exact .failed hclosed rfl
      | text value => exact .failed hclosed rfl
      | textElement name ns value => exact .failed hclosed rfl
  | cons e outer =>
      cases call with
      | start name ns => exact .worked () rfl
      | set name value => exact .worked () rfl
      | text value => exact .worked () rfl
      | textElement name ns value => exact .worked () rfl
      | finish =>
          cases outer with
          | nil => exact .failed ⟨_, rfl⟩ rfl
          | cons parent outer => exact .worked () rfl

/-- What is composed of calls fails for the state of the document only, and
leaves a record of that. -/
theorem Composed.ends {α : Type} {x : Action Builder α} (h : Composed x) :
    ∀ {b : Builder}, b.failure = none →
      Ends IsOfState (x.run b).result (x.run b).state := by
  induction h with
  | pure a =>
      intro b hnone
      exact .worked a hnone
  | note notices =>
      intro b hnone
      exact .worked () hnone
  | call call => exact ends_action call
  | look _ ih =>
      intro b hnone
      exact ih b hnone
  | @bind α β x f _ _ hx hf =>
      intro b hnone
      have hfirst := hx hnone
      rw [Action.run_bind]
      rcases hrun : x.run b with ⟨result, c, notices⟩
      rw [hrun] at hfirst
      cases hfirst with
      | failed hreason hc => exact .failed hreason hc
      | worked a hc => exact hf a hc

theorem ends_render {b : Builder} (hnone : b.failure = none) :
    Ends (fun failure => IsOfState failure ∨ b.Rejects failure)
      (render.run b).result (render.run b).state := by
  obtain ⟨s, stack, stored⟩ := b
  obtain rfl : stored = none := hnone
  cases stack with
  | nil => exact .failed (Or.inl ⟨_, rfl⟩) rfl
  | cons root outer =>
      cases outer with
      | cons parent outer => exact .failed (Or.inl ⟨_, rfl⟩) rfl
      | nil =>
          simp only [render, withOpen, List.isEmpty_nil, ↓reduceIte,
            Action.run]
          split
          next => exact .worked _ rfl
          next failure hchecked =>
            split at hchecked
            next hvalidates =>
              exact ends_fail (Or.inr ⟨hvalidates, root, rfl, hchecked⟩) _
            next => cases hchecked

theorem ends_save {τ : Type} {b : Builder} (hnone : b.failure = none)
    (deliver : List UInt8 → τ → Except IoFault Unit × τ) (place : τ) :
    Ends (fun failure => (∃ fault, failure = .io fault) ∨
        IsOfState failure ∨ b.Rejects failure)
      (b.save deliver place).1.result (b.save deliver place).1.state := by
  have hrender := ends_render hnone
  rw [save]
  rcases hrun : render.run b with ⟨result, c, notices⟩
  rw [hrun] at hrender
  cases hrender with
  | failed hreason hc => exact .failed (Or.inr hreason) hc
  | worked text hc =>
      simp only
      rcases deliver (Utf8.encode text.toList) place with ⟨result, after⟩
      cases result with
      | ok done => exact .worked () hc
      | error fault => exact ends_fail (Or.inl ⟨fault, rfl⟩) c

namespace Operation

/-- Whether an operation hands out the document. -/
def handsOut : Operation → Bool
  | .render | .save .. => true
  | .configure _ | .create .. | .call _ | .encode _ => false

/-- Why an operation may fail on a builder without a failure: for the state of
the document, for the place to which it is handed, or, if it is handed out, for
its text. -/
def MayFailFor (operation : Operation) (b : Builder) (failure : Failure) :
    Prop :=
  IsOfState failure ∨ (∃ fault, failure = .io fault) ∨
    operation.handsOut = true ∧ b.Rejects failure

theorem ends_outcome (operation : Operation) {b : Builder}
    (hnone : b.failure = none) :
    Ends (operation.MayFailFor b) (operation.outcome b).result
      (operation.outcome b).state := by
  cases operation with
  | configure change => exact .worked () hnone
  | create name ns => exact .worked () rfl
  | call c => exact (ends_action c hnone).mono fun _ => Or.inl
  | encode encoder =>
      exact ((composed_encoder encoder).ends hnone).mono fun _ => Or.inl
  | save deliver place =>
      apply (ends_save hnone deliver place).mono
      rintro failure (hplace | hstate | htext)
      · exact Or.inr (Or.inl hplace)
      · exact Or.inl hstate
      · exact Or.inr (Or.inr ⟨rfl, htext⟩)
  | render =>
      have hrender := ends_render hnone
      rw [outcome, Action.run_bind]
      rcases hrun : Builder.render.run b with ⟨result, c, notices⟩
      rw [hrun] at hrender
      cases hrender with
      | worked text hc => exact .worked () hc
      | failed hreason hc =>
          apply Ends.failed _ hc
          rcases hreason with hstate | htext
          · exact Or.inl hstate
          · exact Or.inr (Or.inr ⟨rfl, htext⟩)

end Operation

/-! ## Recorded failures -/

/-- Whatever fails on a builder without a failure, the builder remembers it and
answers with what it remembers until a document is begun.  What it remembers is
worded as what was returned, unless this is a fault that the check of the
document has found in its text. -/
theorem failure_recorded {b : Builder} (hnone : b.failure = none)
    (operation : Operation) {failure : Failure}
    (h : (operation.outcome b).result = .error failure) :
    let c := operation.run b
    c.lastError = some failure.remembered.message ∧
      c.Answers failure.remembered ∧
      (c.lastError = some failure.message ↔
        ∀ fault, failure ≠ .markup fault) ∧
      ∀ fault, failure = .markup fault →
        operation.handsOut = true ∧ b.Rejects failure ∧
          failure.message = "[E2001] XML error: " ++ fault.message ∧
          c.lastError =
            some ("[E2005] XML writing error: " ++ fault.message) := by
  intro c
  have hends := operation.ends_outcome hnone
  rw [h] at hends
  cases hends with
  | failed hreason hc =>
      have hlast : c.lastError = some failure.remembered.message := by
        rw [lastError]
        exact congrArg (Option.map Failure.message) hc
      have hsettled : c.IsSettled := by
        intro stored hstored
        rw [← Option.some.inj (hc.symm.trans hstored)]
        exact failure.remembered_remembered
      refine ⟨hlast, answers_failed hsettled hc, ?_, ?_⟩
      · rw [hlast, Option.some.injEq]
        exact failure.message_remembered_iff
      · rintro fault rfl
        rcases hreason with ⟨_, ⟨⟩⟩ | ⟨_, ⟨⟩⟩ | ⟨hhands, hrejects⟩
        exact ⟨hhands, hrejects, rfl, hlast⟩

/-- A document that its sink has no room for is reported and remembered with
the same words. -/
theorem failure_recorded_full :
    let b := initial.after [.create "CityModel" .cityGml]
    let full : Sink := { Sink.unlimited with limit := some 0 }
    let c := (Operation.save Sink.deliver full).run b
    b.failure = none ∧
      ((Operation.save Sink.deliver full).outcome b).result =
        .error (.io .sinkFull) ∧
      c.lastError = some (Failure.io .sinkFull).message ∧
      c.Answers (.io .sinkFull) := by
  intro b full c
  have hresult : ((Operation.save Sink.deliver full).outcome b).result =
      .error (.io .sinkFull) := by
    decide +kernel
  obtain ⟨hlast, hanswers, -, -⟩ := failure_recorded rfl _ hresult
  exact ⟨rfl, hresult, hlast, hanswers⟩

/-- An element whose name holds a blank is closed under another name than it is
opened.  The check finds that, and the builder then remembers it under another
code than it has returned. -/
theorem failure_reworded :
    let b := initial.after
      [.configure fun s => { s with validates := true }, .create "a b" .cityGml,
        .call (.text "x")]
    let failure := Failure.markup (.tagMismatch "a" "a b")
    let c := Operation.render.run b
    b.failure = none ∧
      (Operation.render.outcome b).result = .error failure ∧
      c.lastError ≠ some failure.message ∧
      (Operation.render.outcome c).result = .error failure.remembered ∧
      failure.remembered.message ≠ failure.message := by
  decide +kernel

end Builder

end CityMarkup
