import CityMarkup.Proofs.Encoding.Encoded

/-!
# Writers with a history

A writer is used by operations that may work or fail.  Whatever has been done
with it, its options are those it was made with.
-/

namespace CityMarkup

namespace Writer

/-- Something that is done with a writer.  What is saved may go to any kind of
place, which may fail in any way. -/
inductive Operation : Type 1 where
  | encode (m : CityModel)
  | render
  | renderText
  | save {τ : Type} (notice : Notice)
      (deliver : List UInt8 → τ → Except IoFault Unit × τ) (place : τ)

/-- The writer after an operation, whether that has worked or not. -/
def Operation.run (operation : Operation) (w : Writer) : Writer :=
  match operation with
  | .encode m => ((Writer.encode m).run w).state
  | .render => (Writer.render.run w).state
  | .renderText => (Writer.renderText.run w).state
  | .save notice deliver place => (w.save notice deliver place).1.state

/-- The writer after some operations, one after the other. -/
def after (w : Writer) (history : List Operation) : Writer :=
  history.foldl (fun w operation => operation.run w) w

theorem options_record {α : Type} (done : Outcome Writer α) :
    (record done).state.options = done.state.options := by
  rw [record]
  split <;> rfl

theorem options_render (w : Writer) :
    (render.run w).state.options = w.options := by
  rw [Action.run, render, options_record]
  split <;> rfl

theorem options_renderText (w : Writer) :
    (renderText.run w).state.options = w.options := by
  have hrender := options_render w
  rw [Action.run, renderText]
  rcases hdone : render.run w with ⟨result, u, notices⟩
  rw [hdone] at hrender
  cases result with
  | error failure => exact hrender
  | ok text =>
      simp only
      split
      · exact hrender
      · rw [options_record]
        exact hrender

theorem options_save {τ : Type} (notice : Notice)
    (deliver : List UInt8 → τ → Except IoFault Unit × τ) (place : τ)
    (w : Writer) : (w.save notice deliver place).1.state.options =
      w.options := by
  rw [save]
  split
  · rcases w.builder.save deliver place with ⟨⟨result, b, notices⟩, place⟩
    cases result with
    | ok done => rfl
    | error failure => exact options_record _
  · exact options_record _

theorem options_encode (w : Writer) (m : CityModel) :
    ((encode m).run w).state.options = w.options := by
  cases h : w.options.validate with
  | ok done => rw [run_encode_ok h]
  | error failure => rw [run_encode_error h]

/-- No operation changes the options. -/
theorem Operation.options_run (operation : Operation) (w : Writer) :
    (operation.run w).options = w.options := by
  cases operation with
  | encode m => exact options_encode w m
  | render => exact options_render w
  | renderText => exact options_renderText w
  | save notice deliver place => exact options_save notice deliver place w

/-- A writer has the options it was made with. -/
theorem options_after (w : Writer) (history : List Operation) :
    (w.after history).options = w.options := by
  induction history generalizing w with
  | nil => rfl
  | cons operation rest ih =>
      rw [after, List.foldl_cons]
      exact (ih (operation.run w)).trans (operation.options_run w)

end Writer

end CityMarkup
