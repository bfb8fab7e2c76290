import CityMarkup.Proofs.Writer.Handover
import CityMarkup.Proofs.Writer.Notices
import Mathlib.Data.List.Induction

/-!
# Sessions with a writer

A writer is told to encode models and to hand out what it has encoded, in any
order.  What it remembers can be read off from its answers since it was last
told to encode.  It either can hand out a document, or it answers everything
but an encoding with one failure.  Every command leads from one of these
states to the other or stays there, and this is how each of them ends.
-/

namespace CityMarkup

/-- The failure in which something has ended. -/
def Outcome.failure? {σ α : Type} (done : Outcome σ α) : Option Failure :=
  match done.result with
  | .ok _ => none
  | .error failure => some failure

namespace Writer

/-! ## Commands -/

/-- What a document is saved to. -/
inductive Destination where
  | stream
  | file (path : String)

/-- The notice that a document has been saved. -/
def Destination.notice : Destination → Notice
  | stream => .savedToStream
  | file path => .savedToFile path

/-- What a writer is told to do.  What is saved may go to any kind of place,
which may fail in any way; a sink and the files are two of them. -/
inductive Command : Type 1 where
  | encode (m : CityModel)
  | render
  | renderText
  | save {τ : Type} (destination : Destination)
      (deliver : List UInt8 → τ → Except IoFault Unit × τ) (place : τ)

namespace Command

/-- Whether a model is to be encoded. -/
def encodes : Command → Bool
  | encode _ => true
  | _ => false

/-- What becomes of a command. -/
def outcome (c : Command) (w : Writer) : Outcome Writer Unit :=
  match c with
  | encode m => (Writer.encode m).run w
  | render => (Writer.render >>= fun _ => pure ()).run w
  | renderText => (Writer.renderText >>= fun _ => pure ()).run w
  | save destination deliver place =>
    (w.save destination.notice deliver place).1

/-- The writer after a command, whether that has worked or not. -/
def run (c : Command) (w : Writer) : Writer :=
  (c.outcome w).state

/-- The notices about a command that hands out a document and works. -/
def announcements : Command → List Notice
  | save destination _ _ => [destination.notice]
  | _ => []

end Command

/-- The writer after some commands, one after the other. -/
def afterCommands (w : Writer) (commands : List Command) : Writer :=
  commands.foldl (fun w c => c.run w) w

theorem afterCommands_concat (w : Writer) (commands : List Command)
    (c : Command) : w.afterCommands (commands ++ [c]) =
      c.run (w.afterCommands commands) := by
  rw [afterCommands, List.foldl_append]
  rfl

/-! ## Answers -/

/-- The answer to a command: whether that was to encode a model, and the
failure if it did not work. -/
structure Answer where
  encodes : Bool
  failure : Option Failure
deriving DecidableEq, Repr

/-- The answers to some commands, one after the other. -/
def answers (w : Writer) : List Command → List Answer
  | [] => []
  | c :: rest =>
    ⟨c.encodes, (c.outcome w).failure?⟩ :: answers (c.run w) rest

theorem answers_concat (w : Writer) (commands : List Command) (c : Command) :
    w.answers (commands ++ [c]) = w.answers commands ++
      [⟨c.encodes, (c.outcome (w.afterCommands commands)).failure?⟩] := by
  induction commands generalizing w with
  | nil => rfl
  | cons first rest ih =>
      rw [List.cons_append, answers, answers, ih (first.run w)]
      rfl

namespace Answer

/-- The answers from the last encoding on, or all of them if there was no
encoding. -/
def current : List Answer → List Answer
  | [] => []
  | first :: rest =>
    if rest.any encodes then current rest else first :: rest

/-- The last failure among the answers from the last encoding on. -/
def lastFailure (answers : List Answer) : Option Failure :=
  ((current answers).filterMap failure).getLast?

/-- Whether there was an encoding and the last one worked. -/
def encodedLast (answers : List Answer) : Bool :=
  (answers.filter encodes).getLast?.any fun last => last.failure.isNone

theorem current_concat (answers : List Answer) (a : Answer) :
    current (answers ++ [a]) =
      if a.encodes then [a] else current answers ++ [a] := by
  induction answers with
  | nil => simp [current]
  | cons first rest ih =>
      rw [List.cons_append, current, current, List.any_append, ih]
      cases ha : a.encodes <;> cases hrest : rest.any encodes <;> simp [ha]

theorem lastFailure_concat (answers : List Answer) (a : Answer) :
    lastFailure (answers ++ [a]) =
      if a.encodes then a.failure
      else a.failure.or (lastFailure answers) := by
  have hsingle : [a].filterMap failure = a.failure.toList := by
    cases h : a.failure <;> simp [h]
  rw [lastFailure, current_concat]
  split
  · rw [hsingle]
    cases a.failure <;> rfl
  · rw [List.filterMap_append, hsingle, List.getLast?_append, lastFailure]
    cases a.failure <;> rfl

theorem encodedLast_concat (answers : List Answer) (a : Answer) :
    encodedLast (answers ++ [a]) =
      if a.encodes then a.failure.isNone else encodedLast answers := by
  rw [encodedLast, List.filter_append]
  cases h : a.encodes with
  | true => simp [h]
  | false => simp [h, encodedLast]

end Answer

/-! ## Refusing -/

/-- Whether a writer answers with a failure when it is to render, whatever it
remembers. -/
def Refuses (w : Writer) (failure : Failure) : Prop :=
  ∀ stored, render.run { w with failure := stored } =
    ⟨.error failure, { w with failure := some failure },
      [.writingFailed failure]⟩

/-- Whether a writer answers everything but an encoding with a failure and
hands nothing out. -/
structure RefusesAll (w : Writer) (failure : Failure) : Prop where
  render : (render.run w).result = .error failure
  renderText : (renderText.run w).result = .error failure
  save : ∀ {τ : Type} (notice : Notice)
    (deliver : List UInt8 → τ → Except IoFault Unit × τ) (place : τ),
    answered (w.save notice deliver place) = (.error failure, place)

variable {w : Writer} {failure : Failure}

theorem refuses_of_not_isEncoded (h : w.isEncoded = false) :
    w.Refuses (.state .nothingEncoded) := fun stored =>
  run_render_of_not_isEncoded (w := { w with failure := stored }) h

theorem refuses_of_fault {fault : IoFault} (h : w.isEncoded = true)
    (hbuilder : w.builder.failure = some (.io fault)) :
    w.Refuses (.io fault) := by
  intro stored
  have hrender : Builder.render.run w.builder =
      ⟨.error (.io fault), w.builder, []⟩ := by
    rw [Builder.render, Builder.run_withOpen_failed hbuilder]
    rfl
  rw [run_render_of_isEncoded (w := { w with failure := stored }) h, hrender]
  rfl

namespace Refuses

theorem run_render (h : w.Refuses failure) :
    render.run w =
      ⟨.error failure, { w with failure := some failure },
        [.writingFailed failure]⟩ :=
  h w.failure

theorem run_renderText (h : w.Refuses failure) :
    renderText.run w =
      ⟨.error failure, { w with failure := some failure },
        [.writingFailed failure]⟩ := by
  rw [Action.run, renderText, h.run_render]

theorem save_eq {τ : Type} (h : w.Refuses failure) (notice : Notice)
    (deliver : List UInt8 → τ → Except IoFault Unit × τ) (place : τ) :
    w.save notice deliver place =
      (⟨.error failure, { w with failure := some failure },
        [.writingFailed failure]⟩, place) := by
  have hresult : (render.run w).result = .error failure := by
    rw [h.run_render]
  rw [save_of_error notice deliver place hresult, h.run_render]

theorem refusesAll (h : w.Refuses failure) : w.RefusesAll failure where
  render := by rw [h.run_render]
  renderText := by rw [h.run_renderText]
  save := fun notice deliver place => by
    rw [h.save_eq]
    rfl

theorem outcome (h : w.Refuses failure) {c : Command}
    (hc : c.encodes = false) :
    c.outcome w =
      ⟨.error failure, { w with failure := some failure },
        [.writingFailed failure]⟩ := by
  cases c with
  | encode m => cases hc
  | render => exact Action.run_bind_error h.run_render
  | renderText => exact Action.run_bind_error h.run_renderText
  | save destination deliver place => rw [Command.outcome, h.save_eq]

/-- A writer that refuses goes on to do so until it is told to encode. -/
theorem afterCommands (h : w.Refuses failure) {commands : List Command}
    (hcommands : ∀ c ∈ commands, c.encodes = false) :
    (w.afterCommands commands).Refuses failure := by
  induction commands generalizing w with
  | nil => exact h
  | cons c rest ih =>
      rw [List.forall_mem_cons] at hcommands
      obtain ⟨hc, hrest⟩ := hcommands
      have hrun : c.run w = { w with failure := some failure } := by
        rw [Command.run, h.outcome hc]
      rw [Writer.afterCommands, List.foldl_cons, hrun]
      exact ih (w := { w with failure := some failure }) h hrest

end Refuses

/-! ## How commands end -/

/-- Whether a writer can hand out a document and remembers no failure. -/
def IsReady (w : Writer) : Prop :=
  w.failure = none ∧ ∃ text, (render.run w).result = .ok text

theorem IsReady.isEncoded (h : w.IsReady) : w.isEncoded = true := by
  obtain ⟨-, text, htext⟩ := h
  exact isEncoded_of_render htext

/-- How a writer stands between commands.  If a model was encoded but cannot be
handed out, then a failure is remembered. -/
def Stands (w : Writer) : Prop :=
  w.IsReady ∨ ∃ failure, w.Refuses failure ∧
    (w.isEncoded = true → w.failure ≠ none)

theorem stands_of_not_isEncoded (h : w.isEncoded = false) : w.Stands := by
  refine Or.inr ⟨_, refuses_of_not_isEncoded h, ?_⟩
  rw [h]
  rintro ⟨⟩

/-- The ways in which a command to a writer ends.  A failure of a place is
reported twice, by the builder and by the writer. -/
inductive Ends (w : Writer) (c : Command) : Outcome Writer Unit → Prop
  | encoded {u : Writer} {notices : List Notice} (hc : c.encodes = true)
      (ready : u.IsReady) (details : AreDetails notices) :
      Ends w c ⟨.ok (), u, notices⟩
  | rejected (hc : c.encodes = true) (failure : Failure) :
      Ends w c ⟨.error failure,
        { w with isEncoded := false, failure := some failure },
        [.writingFailed failure]⟩
  | handedOut (hc : c.encodes = false) (ready : w.IsReady) :
      Ends w c ⟨.ok (), w, c.announcements⟩
  | failed {u : Writer} {failure : Failure} (before : List Failure)
      (hc : c.encodes = false) (refuses : u.Refuses failure)
      (remembered : u.failure = some failure)
      (encoded : u.isEncoded = w.isEncoded) :
      Ends w c ⟨.error failure, u,
        before.map .failed ++ [.writingFailed failure]⟩

theorem ends_encode (w : Writer) (m : CityModel) :
    w.Ends (.encode m) ((Writer.encode m).run w) := by
  cases h : w.options.validate with
  | error failure =>
      rw [run_encode_error h]
      exact .rejected rfl failure
  | ok done =>
      have hencode : ((Writer.encode m).run w).result = .ok () := by
        rw [run_encode_ok h]
      have hrender := Writer.run_render hencode
      rw [run_encode_ok h] at hrender ⊢
      exact .encoded rfl ⟨rfl, _, by rw [hrender]⟩
        (m.areDetails_notices w.options)

theorem ends_save {τ : Type} (h : w.IsReady) (destination : Destination)
    (deliver : List UInt8 → τ → Except IoFault Unit × τ) (place : τ) :
    w.Ends (.save destination deliver place)
      (w.save destination.notice deliver place).1 := by
  have hencoded := h.isEncoded
  have hready := h
  obtain ⟨-, text, htext⟩ := h
  rw [save_of_ok destination.notice deliver place htext]
  rcases deliver (Utf8.encode text.toList) place with ⟨result, after⟩
  cases result with
  | ok done => exact .handedOut rfl hready
  | error fault =>
      exact .failed [.io fault] rfl (refuses_of_fault hencoded rfl) rfl rfl

/-- A writer that is ready hands out its document, unless a place fails to take
it. -/
theorem IsReady.ends (h : w.IsReady) {c : Command} (hc : c.encodes = false) :
    w.Ends c (c.outcome w) := by
  have hready := h
  obtain ⟨-, text, htext⟩ := h
  have hrender := run_render_of_ok htext
  cases c with
  | encode m => cases hc
  | save destination deliver place =>
      exact ends_save hready destination deliver place
  | render =>
      rw [Command.outcome, Action.run_bind_ok hrender]
      exact .handedOut rfl hready
  | renderText =>
      have htexts : renderText.run w = ⟨.ok text, w, []⟩ := by
        rw [Action.run, renderText, hrender]
        simp only [Utf8.decode_encode, String.ofList_toList]
      rw [Command.outcome, Action.run_bind_ok htexts]
      exact .handedOut rfl hready

theorem Stands.ends (h : w.Stands) (c : Command) :
    w.Ends c (c.outcome w) := by
  cases hc : c.encodes with
  | true =>
      cases c with
      | encode m => exact ends_encode w m
      | render | renderText | save destination deliver place => cases hc
  | false =>
      obtain hready | ⟨failure, hrefuses, -⟩ := h
      · exact hready.ends hc
      · rw [hrefuses.outcome hc]
        exact .failed [] hc hrefuses rfl rfl

namespace Ends

variable {c : Command} {done : Outcome Writer Unit}

theorem stands (h : w.Ends c done) : done.state.Stands := by
  cases h with
  | encoded hc ready details => exact Or.inl ready
  | rejected hc failure => exact stands_of_not_isEncoded rfl
  | handedOut hc ready => exact Or.inl ready
  | failed before hc refuses remembered encoded =>
      refine Or.inr ⟨_, refuses, fun _ => ?_⟩
      rw [remembered]
      exact Option.some_ne_none _

/-- An encoding makes the writer forget what it remembers. -/
theorem failure_eq (h : w.Ends c done) :
    done.state.failure =
      if c.encodes then done.failure? else done.failure?.or w.failure := by
  cases h with
  | encoded hc ready details =>
      rw [if_pos hc]
      exact ready.1
  | rejected hc failure => exact (if_pos hc).symm
  | handedOut hc ready => exact (if_neg (by simp [hc])).symm
  | failed before hc refuses remembered encoded =>
      rw [if_neg (by simp [hc])]
      exact remembered

theorem isEncoded_eq (h : w.Ends c done) :
    done.state.isEncoded =
      if c.encodes then done.failure?.isNone else w.isEncoded := by
  cases h with
  | encoded hc ready details =>
      rw [if_pos hc]
      exact ready.isEncoded
  | rejected hc failure => exact (if_pos hc).symm
  | handedOut hc ready => exact (if_neg (by simp [hc])).symm
  | failed before hc refuses remembered encoded =>
      rw [if_neg (by simp [hc])]
      exact encoded

theorem isEncoded_of_ok (h : w.Ends c done) (hc : c.encodes = false)
    (hdone : done.result = .ok ()) : w.isEncoded = true := by
  cases h with
  | encoded hencodes => cases hc.symm.trans hencodes
  | rejected => cases hdone
  | handedOut _ ready => exact ready.isEncoded
  | failed => cases hdone

theorem refuses_of_error (h : w.Ends c done) (hc : c.encodes = false)
    (hdone : done.result = .error failure) : done.state.Refuses failure := by
  cases h with
  | encoded => cases hdone
  | rejected hencodes => cases hc.symm.trans hencodes
  | handedOut => cases hdone
  | failed before hencodes refuses =>
      obtain rfl := Except.error.inj hdone
      exact refuses

end Ends

/-! ## Lines -/

/-- The information that is due after a command: that a document has been
saved. -/
def Command.information (c : Command) : Option Failure → List String
  | none => c.announcements.map Notice.line
  | some _ => []

/-- Whether the lines about a command are those that are due.  A failure is
reported once, with its wording, and a document that has been saved is told. -/
structure Logs (c : Command) (done : Outcome Writer Unit) : Prop where
  failures : failureLines done.notices =
    (done.failure?.map fun failure =>
      "ERROR CityGML writing failed: " ++ failure.message).toList
  information : informationLines done.notices =
    c.information done.failure?

theorem Command.level_announcements (c : Command) :
    ∀ n ∈ c.announcements, n.level = .info := by
  cases c with
  | save destination deliver place =>
      rw [announcements, List.forall_mem_singleton]
      cases destination <;> rfl
  | encode | render | renderText => exact List.forall_mem_nil _

theorem Command.announcements_of_encodes {c : Command}
    (h : c.encodes = true) : c.announcements = [] := by
  cases c with
  | save => cases h
  | encode | render | renderText => rfl

theorem failureLines_failed (before : List Failure) (failure : Failure) :
    failureLines (before.map .failed ++ [.writingFailed failure]) =
      ["ERROR CityGML writing failed: " ++ failure.message] := by
  have hbefore : failureLines (before.map .failed) = [] := by
    rw [failureLines, List.filter_eq_nil_iff, List.forall_mem_map,
      List.forall_mem_map]
    intro other _
    rw [Notice.reportsFailure_line_failed]
    exact Bool.false_ne_true
  have hlast : failureLines [.writingFailed failure] =
      [(Notice.writingFailed failure).line] := by
    rw [failureLines, List.map_singleton, List.filter_cons_of_pos
      (Notice.reportsFailure_line_writingFailed failure), List.filter_nil]
  rw [failureLines_append, hbefore, hlast, Notice.line_writingFailed]
  rfl

theorem informationLines_failed (before : List Failure) (failure : Failure) :
    informationLines (before.map .failed ++ [.writingFailed failure]) =
      [] := by
  apply informationLines_of_level
  rw [List.forall_mem_append, List.forall_mem_map, List.forall_mem_singleton]
  exact ⟨fun _ _ => Level.noConfusion, Level.noConfusion⟩

theorem Ends.logs {c : Command} {done : Outcome Writer Unit}
    (h : w.Ends c done) : Logs c done := by
  cases h with
  | encoded hc ready details =>
      refine ⟨details.failureLines_eq_nil, ?_⟩
      rw [details.informationLines_eq_nil]
      exact (congrArg (List.map Notice.line)
        (Command.announcements_of_encodes hc)).symm
  | rejected hc failure =>
      exact ⟨failureLines_failed [] failure, informationLines_failed [] failure⟩
  | handedOut hc ready =>
      have hlevel := c.level_announcements
      refine ⟨failureLines_of_level ?_, ?_⟩
      · intro n hn
        rw [hlevel n hn]
        exact Level.noConfusion
      · rw [informationLines, List.filter_eq_self.mpr]
        · rfl
        · rw [List.forall_mem_map]
          exact fun n hn => Notice.isInformation_line_iff.mpr (hlevel n hn)
  | failed before hc refuses remembered encoded =>
      exact ⟨failureLines_failed before _, informationLines_failed before _⟩

/-! ## Sessions -/

theorem stands_afterCommands (o : Options) (commands : List Command) :
    ((new o).afterCommands commands).Stands := by
  -- The last command meets the writer that all others have led to.
  induction commands using List.reverseRecOn with
  | nil => exact stands_of_not_isEncoded rfl
  | append_singleton commands c ih =>
      rw [afterCommands_concat]
      exact (ih.ends c).stands

theorem failure_afterCommands (o : Options) (commands : List Command) :
    ((new o).afterCommands commands).failure =
      Answer.lastFailure ((new o).answers commands) := by
  induction commands using List.reverseRecOn with
  | nil => rfl
  | append_singleton commands c ih =>
      have hends := (stands_afterCommands o commands).ends c
      rw [afterCommands_concat, answers_concat, Answer.lastFailure_concat,
        ← ih]
      exact hends.failure_eq

theorem isEncoded_afterCommands (o : Options) (commands : List Command) :
    ((new o).afterCommands commands).isEncoded =
      Answer.encodedLast ((new o).answers commands) := by
  induction commands using List.reverseRecOn with
  | nil => rfl
  | append_singleton commands c ih =>
      have hends := (stands_afterCommands o commands).ends c
      rw [afterCommands_concat, answers_concat, Answer.encodedLast_concat,
        ← ih]
      exact hends.isEncoded_eq

theorem Stands.exists_render_iff (h : w.Stands) :
    (∃ text, (render.run w).result = .ok text) ↔
      w.isEncoded = true ∧ w.failure = none := by
  -- A writer that refuses though a model is encoded remembers why.
  obtain hready | ⟨failure, hrefuses, hremembers⟩ := h
  · exact iff_of_true hready.2 ⟨hready.isEncoded, hready.1⟩
  · refine iff_of_false ?_ fun ⟨hencoded, hnone⟩ => hremembers hencoded hnone
    rw [hrefuses.run_render]
    rintro ⟨_, ⟨⟩⟩

/-- What a writer has been told tells what it remembers and what it does next.
Its last error is the last failure that it has answered from the last encoding
on.  It hands out a document only if that encoding worked, and until it has
answered with a failure; from then on it answers with that failure and hands
nothing out, until it is told to encode again.  Every failure is reported once,
and so is every document that is saved. -/
theorem lastError_afterCommands (o : Options) (commands : List Command) :
    let w := (new o).afterCommands commands
    let answers := (new o).answers commands
    w.lastError = (Answer.lastFailure answers).map Failure.message ∧
      ((∃ text, (render.run w).result = .ok text) ↔
        Answer.encodedLast answers = true ∧ w.lastError = none) ∧
      ∀ c : Command, Logs c (c.outcome w) ∧
        (c.encodes = false →
          ((c.outcome w).result = .ok () →
            Answer.encodedLast answers = true) ∧
          ∀ failure, (c.outcome w).result = .error failure →
            ∀ later : List Command, (∀ d ∈ later, d.encodes = false) →
              ((c.run w).afterCommands later).RefusesAll failure) := by
  intro w answers
  have hstands : w.Stands := stands_afterCommands o commands
  have hfailure : w.failure = Answer.lastFailure answers :=
    failure_afterCommands o commands
  have hencoded : w.isEncoded = Answer.encodedLast answers :=
    isEncoded_afterCommands o commands
  refine ⟨congrArg (Option.map Failure.message) hfailure, ?_, ?_⟩
  · rw [hstands.exists_render_iff, hencoded, lastError, Option.map_eq_none_iff]
  · intro c
    have hends := hstands.ends c
    refine ⟨hends.logs, fun hc => ⟨?_, ?_⟩⟩
    · intro hdone
      rw [← hencoded]
      exact hends.isEncoded_of_ok hc hdone
    · intro failure hdone later hlater
      have hrefuses := hends.refuses_of_error hc hdone
      exact (hrefuses.afterCommands hlater).refusesAll

end Writer

end CityMarkup
