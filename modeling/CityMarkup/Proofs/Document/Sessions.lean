import CityMarkup.Proofs.Document.Guards

/-!
# Sessions with a builder

A builder is used by operations that may work or fail, in any order.  Only the
beginning of a document takes a failure away, and nothing takes away that there
is a document.
-/

namespace CityMarkup

namespace Builder

/-! ## Operations -/

/-- What an encoder is told to write. -/
inductive Encoder where
  | cityObject (o : Options) (isRoot : Bool) (object : CityObject)
  | geometry (g : Geometry)
  | polygon (p : Polygon)
  | ring (r : Ring)
  | line (l : Line)
  | envelope (e : Envelope)
  | address (a : Address)
  | attributes (attributes : Attributes) (generic : Bool)
  | genericAttribute (name : String) (value : AttributeValue)
  | material (m : Material)
  | textureContent (t : Texture)
  | materialBinding (b : MaterialBinding)
  | textureBinding (b : TextureBinding)
  | appearances (object : CityObject)

/-- What an encoder does to a builder. -/
def Encoder.action : Encoder → Action Builder Unit
  | cityObject o isRoot object => addCityObject o isRoot object
  | geometry g => addGeometry g
  | polygon p => addPolygon p
  | ring r => addRing r
  | line l => addLine l
  | envelope e => addEnvelope e
  | address a => addAddress a
  | attributes entries generic => addAttributes entries generic
  | genericAttribute name value => addGenericAttribute name value
  | material m => addMaterial m
  | textureContent t => addTextureContent t
  | materialBinding b => addMaterialBinding b
  | textureBinding b => addTextureBinding b
  | appearances object => addAppearances object

theorem composed_encoder (encoder : Encoder) : Composed encoder.action := by
  cases encoder with
  | cityObject o isRoot object => exact composed_addCityObject o isRoot object
  | attributes entries generic => exact composed_addAttributes entries generic
  | appearances object => exact composed_addAppearances object
  | textureContent t =>
      rw [Encoder.action, addTextureContent_eq]
      exact composed_insertAll _
  | geometry g => exact composed_of_eq_insert (addGeometry_eq g)
  | polygon p => exact composed_of_eq_insert (addPolygon_eq p)
  | ring r => exact composed_of_eq_insert (addRing_eq r)
  | line l => exact composed_of_eq_insert (addLine_eq l)
  | envelope e => exact composed_of_eq_insert (addEnvelope_eq e)
  | address a => exact composed_of_eq_insert (addAddress_eq a)
  | genericAttribute name value =>
      exact composed_of_eq_insert (addGenericAttribute_eq name value)
  | material m => exact composed_of_eq_insert (addMaterial_eq m)
  | materialBinding b => exact composed_of_eq_insert (addMaterialBinding_eq b)
  | textureBinding b => exact composed_of_eq_insert (addTextureBinding_eq b)

theorem guarded_encoder (encoder : Encoder) : Guarded encoder.action :=
  (composed_encoder encoder).guarded

/-- Something that is done with a builder.  What is saved may go to any kind of
place, which may fail in any way. -/
inductive Operation : Type 1 where
  | configure (change : Settings → Settings)
  | create (name : String) (ns : Namespace)
  | call (call : Call)
  | encode (encoder : Encoder)
  | render
  | save {τ : Type} (deliver : List UInt8 → τ → Except IoFault Unit × τ)
      (place : τ)

namespace Operation

/-- Whether an operation begins a document. -/
def begins : Operation → Bool
  | .create .. => true
  | _ => false

/-- Whether an operation writes into a document or hands it out, so that there
has to be one. -/
def needsDocument : Operation → Bool
  | .call _ | .render | .save .. => true
  | .configure _ | .create .. | .encode _ => false

/-- What an operation makes of the settings. -/
def adjust : Operation → Settings → Settings
  | .configure change => change
  | _ => id

/-- What becomes of an operation on a builder. -/
def outcome (operation : Operation) (b : Builder) : Outcome Builder Unit :=
  match operation with
  | .configure change => (Action.modify fun b => b.configure change).run b
  | .create name ns => (createDocument name ns).run b
  | .call c => c.action.run b
  | .encode encoder => encoder.action.run b
  | .render => (Builder.render >>= fun _ => pure ()).run b
  | .save deliver place => (b.save deliver place).1

/-- The builder after an operation, whether that has worked or not. -/
def run (operation : Operation) (b : Builder) : Builder :=
  (operation.outcome b).state

/-- Operations change the settings, begin a document or are guarded. -/
theorem cases_guarded (operation : Operation) :
    (∃ change, operation = .configure change) ∨
      (∃ name ns, operation = .create name ns) ∨
      (operation.begins = false ∧ operation.adjust = id ∧
        ∀ b : Builder, b.Keeps (operation.outcome b)) := by
  cases operation with
  | configure change => exact .inl ⟨change, rfl⟩
  | create name ns => exact .inr (.inl ⟨name, ns, rfl⟩)
  | call c => exact .inr (.inr ⟨rfl, rfl, guarded_action c⟩)
  | encode encoder => exact .inr (.inr ⟨rfl, rfl, guarded_encoder encoder⟩)
  | render =>
      exact .inr (.inr
        ⟨rfl, rfl, guarded_render.bind fun _ => guarded_pure ()⟩)
  | save deliver place =>
      exact .inr (.inr ⟨rfl, rfl, keeps_save deliver place⟩)

/-- There is no document after an operation exactly if there was none and the
operation does not begin one. -/
theorem stack_run (operation : Operation) (b : Builder) :
    (operation.run b).stack = [] ↔
      operation.begins = false ∧ b.stack = [] := by
  obtain ⟨change, rfl⟩ | ⟨name, ns, rfl⟩ | ⟨hbegins, -, hkeeps⟩ :=
    operation.cases_guarded
  · exact (and_iff_right rfl).symm
  · exact iff_of_false (List.cons_ne_nil _ _) fun h => Bool.noConfusion h.1
  · rw [and_iff_right hbegins]
    exact (hkeeps b).document

theorem isSettled_run (operation : Operation) {b : Builder}
    (h : b.IsSettled) : (operation.run b).IsSettled := by
  obtain ⟨change, rfl⟩ | ⟨name, ns, rfl⟩ | ⟨-, -, hkeeps⟩ :=
    operation.cases_guarded
  · exact h
  · exact isSettled_open _ _
  · exact (hkeeps b).settled h

/-- A failed builder changes nothing but its settings, and these only when it
is told to, unless a document is begun. -/
theorem run_failed {b : Builder} {failure : Failure}
    (h : b.failure = some failure) {operation : Operation}
    (hbegins : operation.begins = false) :
    operation.run b = { b with settings := operation.adjust b.settings } := by
  obtain ⟨change, rfl⟩ | ⟨name, ns, rfl⟩ | ⟨-, hadjust, hkeeps⟩ :=
    operation.cases_guarded
  · rfl
  · cases hbegins
  · rw [hadjust]
    exact ((hkeeps b).failed failure h).1

end Operation

/-- The builder after some operations, one after the other. -/
def after (b : Builder) (history : List Operation) : Builder :=
  history.foldl (fun b operation => operation.run b) b

/-- The settings after some operations, one after the other. -/
def adjusted (history : List Operation) (s : Settings) : Settings :=
  history.foldl (fun s operation => operation.adjust s) s

theorem stack_after (b : Builder) (history : List Operation) :
    (b.after history).stack = [] ↔
      (∀ operation ∈ history, operation.begins = false) ∧ b.stack = [] := by
  induction history generalizing b with
  | nil => exact (and_iff_right (List.forall_mem_nil _)).symm
  | cons operation rest ih =>
      rw [after, List.foldl_cons, List.forall_mem_cons]
      refine (ih (operation.run b)).trans ?_
      rw [operation.stack_run]
      exact and_left_comm.trans and_assoc.symm

theorem isSettled_after {b : Builder} (h : b.IsSettled)
    (history : List Operation) : (b.after history).IsSettled := by
  induction history generalizing b with
  | nil => exact h
  | cons operation rest ih => exact ih (operation.isSettled_run h)

/-- A failed builder keeps its failure and its document until a document is
begun. -/
theorem after_failed {b : Builder} {failure : Failure}
    (h : b.failure = some failure) {history : List Operation}
    (hbegins : ∀ operation ∈ history, operation.begins = false) :
    b.after history = { b with settings := adjusted history b.settings } := by
  induction history generalizing b with
  | nil => rfl
  | cons operation rest ih =>
      rw [List.forall_mem_cons] at hbegins
      obtain ⟨hoperation, hrest⟩ := hbegins
      rw [after, List.foldl_cons, Operation.run_failed h hoperation]
      exact ih (b := { b with settings := operation.adjust b.settings }) h hrest

end Builder

end CityMarkup
