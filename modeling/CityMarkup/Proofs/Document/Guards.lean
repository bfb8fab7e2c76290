import CityMarkup.Proofs.Document.Composition

/-!
# Guarded actions

Every call on a builder looks at its failure and at its stack before it does
anything.  What is composed of such calls has the same guard: it does nothing
to a builder that has failed, it neither begins a document nor takes one away,
and it leaves the settings alone.  All encoders are composed in this way.
-/

namespace CityMarkup

namespace Builder

/-- Whether the failure of a builder, if it has one, is in the form in which
failures are remembered. -/
def IsSettled (b : Builder) : Prop :=
  ∀ failure, b.failure = some failure → failure.remembered = failure

/-- What a guarded action may make of a builder.  If the builder has failed it
stays as it is, and the action fails with nothing but its failure. -/
structure Keeps {α : Type} (b : Builder) (done : Outcome Builder α) :
    Prop where
  failed : ∀ failure, b.failure = some failure →
    done.state = b ∧
      ∀ other, done.result = .error other → other = failure.remembered
  document : done.state.stack = [] ↔ b.stack = []
  settings : done.state.settings = b.settings
  settled : b.IsSettled → done.state.IsSettled

/-- Whether an action respects the failure and the document of builders. -/
def Guarded {α : Type} (x : Action Builder α) : Prop :=
  ∀ b : Builder, b.Keeps (x.run b)

/-! ## Composed actions -/

section Composition

variable {α β : Type}

theorem keeps_self (b : Builder) (a : α) (notices : List Notice) :
    b.Keeps (⟨.ok a, b, notices⟩ : Outcome Builder α) where
  failed := by
    rintro failure -
    refine ⟨rfl, ?_⟩
    rintro other ⟨⟩
  document := Iff.rfl
  settings := rfl
  settled := id

theorem keeps_failed {b : Builder} {failure : Failure}
    (h : b.failure = some failure) (notices : List Notice) :
    b.Keeps (⟨.error failure.remembered, b, notices⟩ : Outcome Builder α) where
  failed := by
    intro stored hstored
    refine ⟨rfl, ?_⟩
    rintro other ⟨⟩
    exact congrArg Failure.remembered (Option.some.inj (h.symm.trans hstored))
  document := Iff.rfl
  settings := rfl
  settled := id

theorem guarded_pure (a : α) : Guarded (pure a) :=
  fun b => b.keeps_self a []

theorem guarded_note (notices : List Notice) : Guarded (.note notices) :=
  fun b => b.keeps_self () notices

theorem Guarded.bind {x : Action Builder α} {f : α → Action Builder β}
    (hx : Guarded x) (hf : ∀ a, Guarded (f a)) : Guarded (x >>= f) := by
  intro b
  have hfirst := hx b
  rw [Action.run_bind]
  rcases hrun : x.run b with ⟨result, c, notices⟩
  rw [hrun] at hfirst
  cases result with
  | error failure =>
      exact
        { failed := fun stored h => by
            obtain ⟨hstate, hresult⟩ := hfirst.failed stored h
            refine ⟨hstate, ?_⟩
            rintro other ⟨⟩
            exact hresult failure rfl
          document := hfirst.document
          settings := hfirst.settings
          settled := hfirst.settled }
  | ok a =>
      have hrest := hf a c
      exact
        { failed := fun stored h => by
            -- A failed builder reaches the second action unchanged.
            obtain rfl : c = b := (hfirst.failed stored h).1
            exact hrest.failed stored h
          document := hrest.document.trans hfirst.document
          settings := hrest.settings.trans hfirst.settings
          settled := fun h => hrest.settled (hfirst.settled h) }

theorem Guarded.seq {x : Action Builder Unit} {y : Action Builder α}
    (hx : Guarded x) (hy : Guarded y) : Guarded (do x; y) :=
  hx.bind fun _ => hy

theorem guarded_withState {f : Builder → Action Builder α}
    (h : ∀ b, Guarded (f b)) : Guarded (.withState f) :=
  fun b => h b b

end Composition

/-! ## Calls -/

theorem isSettled_fail (failure : Failure) (b : Builder) :
    IsSettled { b with failure := some failure.remembered } := by
  rintro other ⟨⟩
  exact failure.remembered_remembered

/-- A builder that has failed answers with its failure, whatever is asked. -/
theorem run_withOpen_failed {α : Type} {b : Builder} {failure : Failure}
    (h : b.failure = some failure)
    (f : OpenElement → List OpenElement → Action Builder α) :
    (withOpen f).run b = ⟨.error failure.remembered, b, []⟩ := by
  rw [Action.run, withOpen, h]

/-- The guard itself.  What stands behind it matters on open documents only,
which it has to leave open. -/
theorem guarded_withOpen {α : Type}
    {f : OpenElement → List OpenElement → Action Builder α}
    (h : ∀ (s : Settings) (e : OpenElement) (outer : List OpenElement),
      let c := ((f e outer).run ⟨s, e :: outer, none⟩).state
      c.stack ≠ [] ∧ c.settings = s ∧ c.IsSettled) :
    Guarded (withOpen f) := by
  rintro ⟨s, stack, stored⟩
  cases stored with
  | some failure => exact keeps_failed rfl []
  | none =>
      cases stack with
      | nil =>
          exact ⟨by rintro failure ⟨⟩, Iff.rfl, rfl,
            fun _ => isSettled_fail _ _⟩
      | cons e outer =>
          obtain ⟨hstack, hsettings, hsettled⟩ := h s e outer
          exact ⟨by rintro failure ⟨⟩,
            iff_of_false hstack (List.cons_ne_nil e outer), hsettings,
            fun _ => hsettled⟩

theorem isSettled_open (s : Settings) (stack : List OpenElement) :
    IsSettled ⟨s, stack, none⟩ := by
  rintro failure ⟨⟩

theorem guarded_startElement (name : String) (ns : Namespace) :
    Guarded (startElement name ns) :=
  guarded_withOpen fun s _ _ =>
    ⟨List.cons_ne_nil _ _, rfl, isSettled_open s _⟩

theorem guarded_endElement : Guarded endElement := by
  apply guarded_withOpen
  intro s e outer
  cases outer with
  | nil => exact ⟨List.cons_ne_nil _ _, rfl, isSettled_fail _ _⟩
  | cons parent outer =>
      exact ⟨List.cons_ne_nil _ _, rfl, isSettled_open s _⟩

theorem guarded_writeAttribute (name value : String) :
    Guarded (writeAttribute name value) :=
  guarded_withOpen fun s _ _ =>
    ⟨List.cons_ne_nil _ _, rfl, isSettled_open s _⟩

theorem guarded_writeText (value : String) : Guarded (writeText value) :=
  guarded_withOpen fun s _ _ =>
    ⟨List.cons_ne_nil _ _, rfl, isSettled_open s _⟩

theorem guarded_writeTextElement (name : String) (ns : Namespace)
    (value : String) : Guarded (writeTextElement name ns value) :=
  (guarded_startElement name ns).seq
    ((guarded_writeText value).seq guarded_endElement)

theorem guarded_action (call : Call) : Guarded call.action := by
  cases call with
  | start name ns => exact guarded_startElement name ns
  | finish => exact guarded_endElement
  | set name value => exact guarded_writeAttribute name value
  | text value => exact guarded_writeText value
  | textElement name ns value => exact guarded_writeTextElement name ns value

theorem guarded_render : Guarded render := by
  apply guarded_withOpen
  intro s e outer
  cases outer with
  | cons parent outer =>
      exact ⟨List.cons_ne_nil _ _, rfl, isSettled_fail _ _⟩
  | nil =>
      simp only [List.isEmpty_nil, ↓reduceIte, Action.run]
      split
      · exact ⟨List.cons_ne_nil _ _, rfl, isSettled_open s _⟩
      · exact ⟨List.cons_ne_nil _ _, rfl, isSettled_fail _ _⟩

theorem save_failed {τ : Type} {b : Builder} {failure : Failure}
    (h : b.failure = some failure)
    (deliver : List UInt8 → τ → Except IoFault Unit × τ) (place : τ) :
    b.save deliver place = (⟨.error failure.remembered, b, []⟩, place) := by
  rw [save, render, run_withOpen_failed h]

/-- Saving is guarded as well, whatever becomes of the bytes. -/
theorem keeps_save {τ : Type}
    (deliver : List UInt8 → τ → Except IoFault Unit × τ) (place : τ)
    (b : Builder) : b.Keeps (b.save deliver place).1 := by
  cases hstored : b.failure with
  | some failure =>
      rw [save_failed hstored]
      exact keeps_failed hstored []
  | none =>
      have hnone : ∀ failure, b.failure ≠ some failure := by
        rw [hstored]
        rintro failure ⟨⟩
      have hrender := guarded_render b
      rw [save]
      rcases hrun : render.run b with ⟨result, c, notices⟩
      rw [hrun] at hrender
      cases result with
      | error failure =>
          exact ⟨fun failure h => absurd h (hnone failure), hrender.document,
            hrender.settings, hrender.settled⟩
      | ok text =>
          simp only
          rcases deliver (Utf8.encode text.toList) place with ⟨result, after⟩
          cases result with
          | ok done =>
              exact ⟨fun failure h => absurd h (hnone failure),
                hrender.document, hrender.settings, hrender.settled⟩
          | error fault =>
              exact ⟨fun failure h => absurd h (hnone failure),
                hrender.document, hrender.settings,
                fun _ => isSettled_fail _ c⟩

/-- What is composed of calls is guarded, as each of the calls is. -/
theorem Composed.guarded {α : Type} {x : Action Builder α}
    (h : Composed x) : Guarded x := by
  induction h with
  | pure a => exact guarded_pure a
  | note notices => exact guarded_note notices
  | call call => exact guarded_action call
  | look _ ih => exact guarded_withState ih
  | bind _ _ hx hf => exact hx.bind hf

end Builder

end CityMarkup
