import CityMarkup.Notice

/-!
# Actions

An action works on a state.  It has a result or fails, leaves a state behind
in both cases, and gives notices on the way.
-/

namespace CityMarkup

/-- What an action leaves behind. -/
structure Outcome (σ α : Type) where
  result : Except Failure α
  state : σ
  notices : List Notice

/-- A computation on a state that may fail. -/
def Action (σ α : Type) : Type :=
  σ → Outcome σ α

namespace Action

variable {σ α β : Type}

/-- Runs an action on a state. -/
def run (x : Action σ α) (s : σ) : Outcome σ α :=
  x s

/-- The action with a given result. -/
protected def pure (a : α) : Action σ α := fun s =>
  ⟨.ok a, s, []⟩

/-- One action after another; a failure ends both. -/
protected def bind (x : Action σ α) (f : α → Action σ β) : Action σ β :=
  fun s =>
    match x s with
    | ⟨.ok a, s, before⟩ =>
      let after := f a s
      ⟨after.result, after.state, before ++ after.notices⟩
    | ⟨.error failure, s, before⟩ => ⟨.error failure, s, before⟩

instance : Monad (Action σ) where
  pure := Action.pure
  bind := Action.bind

/-- Replaces the state. -/
def modify (f : σ → σ) : Action σ Unit := fun s =>
  ⟨.ok (), f s, []⟩

/-- Gives notices. -/
def note (notices : List Notice) : Action σ Unit := fun s =>
  ⟨.ok (), s, notices⟩

/-- Runs an action under a condition, and does nothing otherwise. -/
def when (condition : Bool) (x : Action σ Unit) : Action σ Unit :=
  if condition then x else pure ()

/-- Runs an action that depends on the state it begins in. -/
def withState (f : σ → Action σ α) : Action σ α := fun s =>
  f s s

@[simp]
theorem run_pure (a : α) (s : σ) :
    (pure a : Action σ α).run s = ⟨.ok a, s, []⟩ := rfl

theorem run_note (notices : List Notice) (s : σ) :
    (note notices).run s = ⟨.ok (), s, notices⟩ := rfl

theorem run_withState (f : σ → Action σ α) (s : σ) :
    (withState f).run s = (f s).run s := rfl

theorem run_bind (x : Action σ α) (f : α → Action σ β) (s : σ) :
    (x >>= f).run s =
      match x.run s with
      | ⟨.ok a, s, before⟩ =>
        ⟨((f a).run s).result, ((f a).run s).state,
          before ++ ((f a).run s).notices⟩
      | ⟨.error failure, s, before⟩ => ⟨.error failure, s, before⟩ := rfl

theorem run_bind_ok {x : Action σ α} {f : α → Action σ β} {s t : σ} {a : α}
    (h : x.run s = ⟨.ok a, t, []⟩) : (x >>= f).run s = (f a).run t := by
  rw [run_bind, h]
  simp

/-- One action after another, with the notices of both. -/
theorem run_bind_noted {x : Action σ α} {f : α → Action σ β} {s t u : σ}
    {a : α} {b : β} {before after : List Notice}
    (hx : x.run s = ⟨.ok a, t, before⟩)
    (hf : (f a).run t = ⟨.ok b, u, after⟩) :
    (x >>= f).run s = ⟨.ok b, u, before ++ after⟩ := by
  rw [run_bind, hx]
  simp only [hf]

theorem run_bind_error {x : Action σ α} {f : α → Action σ β} {s t : σ}
    {failure : Failure} {notices : List Notice}
    (h : x.run s = ⟨.error failure, t, notices⟩) :
    (x >>= f).run s = ⟨.error failure, t, notices⟩ := by
  rw [run_bind, h]

protected theorem id_map (x : Action σ α) : id <$> x = x := by
  funext s
  change (x >>= pure).run s = x.run s
  rw [run_bind]
  rcases x.run s with ⟨result, t, before⟩
  cases result with
  | error failure => rfl
  | ok a => simp

protected theorem pure_bind (a : α) (f : α → Action σ β) :
    pure a >>= f = f a := by
  funext s
  exact run_bind_ok (run_pure a s)

protected theorem bind_assoc {γ : Type} (x : Action σ α) (f : α → Action σ β)
    (g : β → Action σ γ) : x >>= f >>= g = x >>= fun a => f a >>= g := by
  funext s
  change (x >>= f >>= g).run s = (x >>= fun a => f a >>= g).run s
  simp only [run_bind]
  rcases x.run s with ⟨result, t, before⟩
  cases result with
  | error failure => rfl
  | ok a =>
      simp only
      rcases (f a).run t with ⟨result, u, middle⟩
      cases result with
      | error failure => rfl
      | ok b => simp

instance : LawfulMonad (Action σ) :=
  .mk' (Action σ) Action.id_map Action.pure_bind Action.bind_assoc

end Action

end CityMarkup
