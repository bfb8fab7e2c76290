import CityMarkup.Proofs.Document.Sessions

/-!
# Failures stick

A builder remembers its first failure until a new document is begun.  Until
then everything that could change its document or hand it out answers with that
failure and does nothing.  Beginning a document forgets whatever was there.  A
builder without a failure lacks a document exactly if none was ever begun.
-/

namespace CityMarkup

/-! ## Messages -/

theorem append_ne_of_take {n : Nat} {first second : String}
    (h : first.toList.take n ≠ second.toList.take n)
    (hfirst : n ≤ first.toList.length) (hsecond : n ≤ second.toList.length)
    (u v : String) : first ++ u ≠ second ++ v := by
  intro heq
  apply h
  have htake := congrArg (fun s => s.toList.take n) heq
  simpa only [String.toList_append, List.take_append_of_le_length hfirst,
    List.take_append_of_le_length hsecond] using htake

namespace Failure

theorem message_state (fault : StateFault) :
    (state fault).message =
      "[E2006] Document state error: " ++ fault.message :=
  rfl

/-- Messages tell the state of a document from everything else by the code, and
what is wrong with the state by what follows. -/
theorem exists_state_of_message {failure : Failure} {fault : StateFault}
    (h : failure.message = (state fault).message) :
    ∃ other, failure = state other ∧ other.message = fault.message := by
  -- The code in brackets takes up the first seven characters.
  have hcode : ∀ code : String, code.toList.take 7 ≠ "[E2006]".toList →
      7 ≤ code.toList.length → ∀ text, failure.message ≠ code ++ text := by
    intro code htake hlength text hmessage
    rw [hmessage, message_state] at h
    exact append_ne_of_take htake hlength (by decide) _ _ h
  cases failure with
  | state other =>
      rw [message_state, message_state] at h
      exact ⟨other, rfl, (String.append_right_inj _).mp h⟩
  | io fault => exact absurd rfl (hcode _ (by decide) (by decide) _)
  | markup fault => exact absurd rfl (hcode _ (by decide) (by decide) _)
  | document fault => exact absurd rfl (hcode _ (by decide) (by decide) _)
  | writing text => exact absurd rfl (hcode _ (by decide) (by decide) _)
  | unsupported fault => exact absurd rfl (hcode _ (by decide) (by decide) _)

end Failure

theorem StateFault.message_stillOpen_ne (count : Nat) :
    (stillOpen count).message ≠ noDocument.message := by
  intro h
  have hmessage : (stillOpen count).message =
      toString count ++ " element(s) still open at save time" := rfl
  have hopen : " element(s) still open at save time".toList.getLast? =
      some 'e' := by decide
  rw [hmessage] at h
  have hlast := congrArg (fun message => message.toList.getLast?) h
  rw [String.toList_append, List.getLast?_append, hopen,
    Option.some_or] at hlast
  revert hlast
  decide

namespace Builder

/-! ## After a failure -/

/-- What a failed builder answers.  It stays as it is, and so does the place to
which it is to hand its document. -/
structure Answers (b : Builder) (failure : Failure) : Prop where
  wording : b.lastError = some failure.message
  call : ∀ call : Call, call.action.run b = ⟨.error failure, b, []⟩
  render : render.run b = ⟨.error failure, b, []⟩
  save : ∀ {τ : Type} (deliver : List UInt8 → τ → Except IoFault Unit × τ)
    (place : τ), b.save deliver place = (⟨.error failure, b, []⟩, place)
  encode : ∀ encoder : Encoder, (encoder.action.run b).state = b ∧
    ∀ other, (encoder.action.run b).result = .error other → other = failure

theorem answers_failed {b : Builder} (hsettled : b.IsSettled)
    {failure : Failure} (h : b.failure = some failure) :
    b.Answers failure where
  wording := by
    rw [lastError, h]
    rfl
  call := by
    intro call
    have hfailed := run_withOpen_failed (α := Unit) h
    rw [hsettled failure h] at hfailed
    cases call with
    | start name ns => exact hfailed _
    | finish => exact hfailed _
    | set name value => exact hfailed _
    | text value => exact hfailed _
    | textElement name ns value => exact Action.run_bind_error (hfailed _)
  render := by
    rw [render, run_withOpen_failed h, hsettled failure h]
  save := by
    intro τ deliver place
    rw [save_failed h, hsettled failure h]
  encode := by
    intro encoder
    have hencode := (guarded_encoder encoder b).failed failure h
    rw [hsettled failure h] at hencode
    exact hencode

/-! ## Without a failure -/

/-- Whether a result is a failure that is worded like another one. -/
def Reports {α : Type} (result : Except Failure α) (failure : Failure) :
    Prop :=
  ∃ found, result = .error found ∧ found.message = failure.message

theorem not_reports_ok {α : Type} (a : α) (failure : Failure) :
    ¬ Reports (.ok a) failure := by
  rintro ⟨found, ⟨⟩, -⟩

theorem reports_error {α : Type} {found failure : Failure} :
    Reports (.error found : Except Failure α) failure ↔
      found.message = failure.message := by
  constructor
  · rintro ⟨other, ⟨⟩, h⟩
    exact h
  · intro h
    exact ⟨found, rfl, h⟩

theorem not_reports_of_ne_state {α : Type} {found : Failure}
    (h : ∀ fault, found ≠ .state fault) (fault : StateFault) :
    ¬ Reports (.error found : Except Failure α) (.state fault) := by
  rw [reports_error]
  intro hmessage
  obtain ⟨other, hother, -⟩ := Failure.exists_state_of_message hmessage
  exact h other hother

theorem not_reports_of_message_ne {α : Type} {found fault : StateFault}
    (h : found.message ≠ fault.message) :
    ¬ Reports (.error (.state found) : Except Failure α) (.state fault) := by
  rw [reports_error]
  intro hmessage
  obtain ⟨other, ⟨⟩, hother⟩ := Failure.exists_state_of_message hmessage
  exact h hother

/-- A text that is checked is never blamed on the state of a document. -/
theorem checkWellFormed_ne_state {bytes : List UInt8} {failure : Failure}
    (h : Markup.checkWellFormed bytes = .error failure) (fault : StateFault) :
    failure ≠ .state fault := by
  rintro rfl
  revert h
  rw [Markup.checkWellFormed]
  split
  · rintro ⟨⟩
  · simp only [Markup.checkText]
    split
    · rintro ⟨⟩
    · rintro ⟨⟩
    · split
      · rintro ⟨⟩
      · split
        · rintro ⟨⟩
        · rintro ⟨⟩

section OpenDocument

variable (s : Settings) (e : OpenElement) (outer : List OpenElement)

theorem not_reports_call (call : Call) :
    ¬ Reports (call.action.run ⟨s, e :: outer, none⟩).result
      (.state .noDocument) := by
  cases call with
  | start name ns => exact not_reports_ok () _
  | set name value => exact not_reports_ok () _
  | text value => exact not_reports_ok () _
  | textElement name ns value => exact not_reports_ok () _
  | finish =>
      cases outer with
      | nil => exact not_reports_of_message_ne (by decide)
      | cons parent outer => exact not_reports_ok () _

theorem not_reports_render :
    ¬ Reports (render.run ⟨s, e :: outer, none⟩).result
      (.state .noDocument) := by
  cases outer with
  | cons parent outer =>
      exact not_reports_of_message_ne (StateFault.message_stillOpen_ne _)
  | nil =>
      simp only [render, withOpen, List.isEmpty_nil, ↓reduceIte, Action.run]
      split
      next => exact not_reports_ok _ _
      next failure hchecked =>
        split at hchecked
        · exact not_reports_of_ne_state (checkWellFormed_ne_state hchecked) _
        · cases hchecked

theorem not_reports_save {τ : Type}
    (deliver : List UInt8 → τ → Except IoFault Unit × τ) (place : τ) :
    ¬ Reports (save deliver place ⟨s, e :: outer, none⟩).1.result
      (.state .noDocument) := by
  have hrender := not_reports_render s e outer
  rw [save]
  rcases hrun : render.run ⟨s, e :: outer, none⟩ with ⟨result, b, notices⟩
  rw [hrun] at hrender
  cases result with
  | error failure =>
      rw [reports_error] at hrender ⊢
      exact hrender
  | ok text =>
      simp only
      rcases deliver (Utf8.encode text.toList) place with ⟨result, after⟩
      cases result with
      | ok done => exact not_reports_ok _ _
      | error fault => exact not_reports_of_ne_state (by rintro _ ⟨⟩) _

/-- Nothing that is done with a document is blamed on the lack of one. -/
theorem not_reports_outcome {operation : Operation}
    (hneeds : operation.needsDocument = true) :
    ¬ Reports (operation.outcome ⟨s, e :: outer, none⟩).result
      (.state .noDocument) := by
  cases operation with
  | configure change => cases hneeds
  | create name ns => cases hneeds
  | encode encoder => cases hneeds
  | call c => exact not_reports_call s e outer c
  | save deliver place => exact not_reports_save s e outer deliver place
  | render =>
      have hrender := not_reports_render s e outer
      rw [Operation.outcome, Action.run_bind]
      rcases hrun : render.run ⟨s, e :: outer, none⟩ with ⟨result, b, _⟩
      rw [hrun] at hrender
      cases result with
      | ok text => exact not_reports_ok _ _
      | error failure =>
          rw [reports_error] at hrender ⊢
          exact hrender

end OpenDocument

theorem run_withOpen_closed {α : Type} {b : Builder}
    (hfailure : b.failure = none) (hstack : b.stack = [])
    (f : OpenElement → List OpenElement → Action Builder α) :
    (withOpen f).run b = (fail (.state .noDocument)).run b := by
  rw [Action.run, withOpen, hfailure, hstack]
  rfl

/-- Without a document everything that needs one fails. -/
theorem result_of_closed {b : Builder} (hfailure : b.failure = none)
    (hstack : b.stack = []) {operation : Operation}
    (hneeds : operation.needsDocument = true) :
    (operation.outcome b).result = .error (.state .noDocument) := by
  have hclosed : ∀ {α : Type}
      (f : OpenElement → List OpenElement → Action Builder α),
      (withOpen f).run b = (fail (.state .noDocument)).run b :=
    fun f => run_withOpen_closed hfailure hstack f
  cases operation with
  | configure change => cases hneeds
  | create name ns => cases hneeds
  | encode encoder => cases hneeds
  | render => exact congrArg Outcome.result (Action.run_bind_error (hclosed _))
  | save deliver place =>
      rw [Operation.outcome, save, render, hclosed]
      rfl
  | call c =>
      cases c with
      | start name ns => exact congrArg Outcome.result (hclosed _)
      | finish => exact congrArg Outcome.result (hclosed _)
      | set name value => exact congrArg Outcome.result (hclosed _)
      | text value => exact congrArg Outcome.result (hclosed _)
      | textElement name ns value =>
          exact congrArg Outcome.result (Action.run_bind_error (hclosed _))

theorem reports_noDocument {b : Builder} (hfailure : b.failure = none)
    {operation : Operation} (hneeds : operation.needsDocument = true) :
    Reports (operation.outcome b).result (.state .noDocument) ↔
      b.stack = [] := by
  constructor
  · intro hreports
    by_contra hopen
    obtain ⟨e, outer, hstack⟩ := List.exists_cons_of_ne_nil hopen
    obtain ⟨s, stack, failure⟩ := b
    obtain rfl : failure = none := hfailure
    obtain rfl : stack = e :: outer := hstack
    exact not_reports_outcome s e outer hneeds hreports
  · intro hstack
    rw [result_of_closed hfailure hstack hneeds, reports_error]

/-! ## Sticky failures -/

/-- Whether beginning a document works and leaves nothing of what was there but
the settings. -/
structure BeginsAnew (b : Builder) (name : String) (ns : Namespace) :
    Prop where
  result : ((createDocument name ns).run b).result = .ok ()
  failure : ((createDocument name ns).run b).state.failure = none
  content : ∃ root, ((createDocument name ns).run b).state.stack = [root] ∧
    root.children = []
  same : ∀ other : Builder, other.failure = none →
    other.settings = b.settings →
    (createDocument name ns).run b = (createDocument name ns).run other

theorem beginsAnew (b : Builder) (name : String) (ns : Namespace) :
    b.BeginsAnew name ns where
  result := rfl
  failure := rfl
  content := ⟨_, rfl, rfl⟩
  same := by
    rintro other - hsettings
    simp only [createDocument, Action.modify, Action.run, hsettings]

/-- After any history a failure lasts until a document is begun, whatever is
done before that.  Beginning a document leaves no trace of it.  Without a
failure, exactly the lack of a begun document is reported as such. -/
theorem failure_sticks (history : List Operation) :
    let b := initial.after history
    (b.hasFailed = true → ∃ failure,
      b.failure = some failure ∧ b.Answers failure ∧
        ∀ rest : List Operation,
          (∀ operation ∈ rest, operation.begins = false) →
          b.after rest = { b with settings := adjusted rest b.settings } ∧
            (b.after rest).Answers failure) ∧
      (∀ name ns, b.BeginsAnew name ns) ∧
      (b.hasFailed = false → ∀ operation : Operation,
        operation.needsDocument = true →
        (Reports (operation.outcome b).result (.state .noDocument) ↔
          ∀ earlier ∈ history, earlier.begins = false)) := by
  intro b
  have hsettled : b.IsSettled := isSettled_after (isSettled_open _ _) history
  refine ⟨?_, b.beginsAnew, ?_⟩
  · intro hfailed
    obtain ⟨failure, hfailure⟩ := Option.isSome_iff_exists.mp hfailed
    refine ⟨failure, hfailure, answers_failed hsettled hfailure, ?_⟩
    intro rest hbegins
    have hrest := after_failed hfailure hbegins
    refine ⟨hrest, ?_⟩
    rw [hrest]
    exact answers_failed (b := { b with settings := adjusted rest b.settings })
      hsettled hfailure
  · intro hworks operation hneeds
    have hnone : b.failure = none :=
      Option.isNone_iff_eq_none.mp (Option.isSome_eq_false_iff.mp hworks)
    rw [reports_noDocument hnone hneeds, stack_after]
    exact and_iff_left rfl

/-- A document that was handed out too early stays as it is, even if its last
element is closed afterwards. -/
theorem failure_sticks_early :
    let history : List Operation :=
      [.create "CityModel" .cityGml, .call (.start "name" .gml), .render]
    let rest : List Operation :=
      [.call .finish, .configure fun s => { s with indentSize := 4 },
        .encode (.genericAttribute "class" (.string "park")), .render]
    let b := initial.after history
    b.failure = some (.state (.stillOpen 1)) ∧
      b.after rest =
        { b with settings := { b.settings with indentSize := 4 } } ∧
      (b.after rest).Answers (.state (.stillOpen 1)) := by
  intro history rest b
  have hbegins : ∀ operation ∈ rest, operation.begins = false := by
    simp [rest, Operation.begins]
  obtain ⟨hfailed, -, -⟩ := failure_sticks history
  obtain ⟨failure, hfailure, -, hrest⟩ := hfailed rfl
  obtain rfl : .state (.stillOpen 1) = failure := Option.some.inj hfailure
  obtain ⟨hstate, hanswers⟩ := hrest rest hbegins
  exact ⟨hfailure, hstate, hanswers⟩

end Builder

end CityMarkup
