import CityMarkup.Proofs.Storage.Sinks

/-!
# Receivers

A receiver is offered bytes again and again until it has taken them all.  How
many it takes of each offer is its own affair, and so is whether it reports a
fault.  What it has taken at the end is a beginning of the bytes.  A sink is
one kind of receiver.
-/

namespace CityMarkup

/-- Something that takes bytes.  Of each offer it takes a number of bytes,
which is at most the number offered (a larger one counts as all of them), or it
reports a fault.  Such a fault is one after which the offer is not repeated: an
interruption, which would be answered by the same offer again, is none.  It may
also report a fault when it is told that everything has been taken. -/
structure Receiver (σ : Type) where
  take : List UInt8 → σ → Except IoFault Nat × σ
  finish : σ → Except IoFault Unit × σ

/-- A receiver at work: its state, and all that it has taken. -/
structure Intake (σ : Type) where
  state : σ
  taken : List UInt8

namespace Receiver

variable {σ : Type}

/-- Offers bytes as long as some of them are taken.  The first fault ends it, as
a fault is never one that calls for the same offer again, and so does an offer
of which nothing is taken. -/
def writeAll (r : Receiver σ) (bytes : List UInt8) (i : Intake σ) :
    Except IoFault Unit × Intake σ :=
  if bytes.isEmpty then
    (.ok (), i)
  else
    match r.take bytes i.state with
    | (.error fault, state) => (.error fault, { i with state })
    | (.ok count, state) =>
      if count = 0 then
        (.error .sinkStuck, { i with state })
      else
        r.writeAll (bytes.drop count) ⟨state, i.taken ++ bytes.take count⟩
termination_by bytes.length
decreasing_by
  rename_i hne hcount
  have hlength : bytes.length ≠ 0 := by
    rw [List.isEmpty_iff] at hne
    exact mt List.length_eq_zero_iff.mp hne
  rw [List.length_drop]
  omega

/-- Offers bytes and tells the receiver when it has taken them all. -/
def deliver (r : Receiver σ) (bytes : List UInt8) (i : Intake σ) :
    Except IoFault Unit × Intake σ :=
  match r.writeAll bytes i with
  | (.error fault, i) => (.error fault, i)
  | (.ok (), i) =>
    let done := r.finish i.state
    (done.1, { i with state := done.2 })

/-- Whether a receiver that has been offered some bytes reports no fault when
it is told that they were all. -/
def Finishes (r : Receiver σ) (bytes : List UInt8) (i : Intake σ) : Prop :=
  (r.finish (r.writeAll bytes i).2.state).1 = .ok ()

/-- Whether a receiver gives a fault while some bytes are left to be taken, and
in which state this leaves it.  It answers the offer of these bytes with the
fault, or it takes none of them, which is a fault as well; or no bytes are left
and it does not finish. -/
inductive Gives (r : Receiver σ) : List UInt8 → σ → IoFault → Prop where
  | refused {rest : List UInt8} {before after : σ} {fault : IoFault}
      (hrest : rest ≠ [])
      (htake : r.take rest before = (.error fault, after)) :
      Gives r rest after fault
  | stuck {rest : List UInt8} {before after : σ} (hrest : rest ≠ [])
      (htake : r.take rest before = (.ok 0, after)) :
      Gives r rest after .sinkStuck
  | unfinished {before after : σ} {fault : IoFault}
      (hfinish : r.finish before = (.error fault, after)) :
      Gives r [] after fault

/-- A receiver takes a beginning of the bytes, and offering works exactly if
nothing is left of them.  Otherwise the receiver gives the fault. -/
theorem exists_writeAll (r : Receiver σ) (bytes : List UInt8) (i : Intake σ) :
    ∃ passed rest, passed ++ rest = bytes ∧
      (r.writeAll bytes i).2.taken = i.taken ++ passed ∧
      ((r.writeAll bytes i).1 = .ok () ↔ rest = []) ∧
      ∀ fault, (r.writeAll bytes i).1 = .error fault →
        r.Gives rest (r.writeAll bytes i).2.state fault := by
  fun_induction writeAll r bytes i with
  | case1 bytes i hempty =>
      exact ⟨[], [], (List.isEmpty_iff.mp hempty).symm,
        (List.append_nil _).symm, iff_of_true rfl rfl, by rintro _ ⟨⟩⟩
  | case2 bytes i hne fault state htake =>
      have hnil : bytes ≠ [] := mt List.isEmpty_iff.mpr hne
      refine ⟨[], bytes, rfl, (List.append_nil _).symm,
        iff_of_false (by rintro ⟨⟩) hnil, ?_⟩
      rintro _ ⟨⟩
      exact .refused hnil htake
  | case3 bytes i hne state htake =>
      have hnil : bytes ≠ [] := mt List.isEmpty_iff.mpr hne
      refine ⟨[], bytes, rfl, (List.append_nil _).symm,
        iff_of_false (by rintro ⟨⟩) hnil, ?_⟩
      rintro _ ⟨⟩
      exact .stuck hnil htake
  | case4 bytes i hne count state htake hcount ih =>
      obtain ⟨passed, rest, hbytes, htaken, hworks⟩ := ih
      refine ⟨bytes.take count ++ passed, rest, ?_, ?_, hworks⟩
      · rw [List.append_assoc, hbytes, List.take_append_drop]
      · rw [htaken, List.append_assoc]

/-- A receiver takes a beginning of the bytes.  Handing them over works exactly
if it takes them all and finishes, and fails with the fault that it gives. -/
theorem exists_deliver (r : Receiver σ) (bytes : List UInt8) (i : Intake σ) :
    ∃ passed, passed <+: bytes ∧
      (r.deliver bytes i).2.taken = i.taken ++ passed ∧
      ((r.deliver bytes i).1 = .ok () ↔
        passed = bytes ∧ r.Finishes bytes i) ∧
      ∀ fault, (r.deliver bytes i).1 = .error fault →
        ∃ rest, passed ++ rest = bytes ∧
          r.Gives rest (r.deliver bytes i).2.state fault := by
  obtain ⟨passed, rest, hbytes, htaken, hworks, hgives⟩ :=
    r.exists_writeAll bytes i
  have hall : passed = bytes ↔ rest = [] := by
    rw [← hbytes, List.self_eq_append_right]
  refine ⟨passed, ⟨rest, hbytes⟩, ?_⟩
  rw [hall, deliver, Finishes]
  rcases hwrite : r.writeAll bytes i with ⟨result, after⟩
  rw [hwrite] at htaken hworks hgives
  cases result with
  | error fault =>
      refine ⟨htaken, iff_of_false (by rintro ⟨⟩) ?_, ?_⟩
      · rintro ⟨hrest, -⟩
        cases hworks.mpr hrest
      · rintro _ ⟨⟩
        exact ⟨rest, hbytes, hgives fault rfl⟩
  | ok done =>
      have hrest : rest = [] := hworks.mp rfl
      refine ⟨htaken, (and_iff_right hrest).symm, fun fault hfault => ?_⟩
      exact ⟨rest, hbytes, hrest ▸ .unfinished (Prod.ext hfault rfl)⟩

end Receiver

/-! ## Sinks -/

namespace Sink

/-- A sink as a receiver. -/
def receiver : Receiver Sink where
  take bytes s :=
    let count := s.capacity bytes.length
    if count = 0 then
      (if s.isFull && s.overflow == .reports then .error .sinkFull else .ok 0,
        s)
    else
      (.ok count, s.accept (bytes.take count))
  finish s := (if s.flushes then .ok () else .error .flushFailed, s)

/-- A sink takes bytes as a receiver does. -/
theorem exists_writeAll_receiver (bytes : List UInt8) (s : Sink) :
    ∀ taken, ∃ passed, (s.writeAll bytes).2 = s.accept passed ∧
      receiver.writeAll bytes ⟨s, taken⟩ =
        ((s.writeAll bytes).1, ⟨s.accept passed, taken ++ passed⟩) := by
  have hnone : ∀ s : Sink, s.accept [] = s := by
    intro s
    rw [accept, List.append_nil]
  fun_induction writeAll bytes s with
  | case1 bytes s hempty =>
      intro taken
      refine ⟨[], (hnone s).symm, ?_⟩
      rw [Receiver.writeAll, if_pos hempty, hnone, List.append_nil]
  | case2 bytes s hne count hzero =>
      intro taken
      have htake : receiver.take bytes s =
          (if s.isFull && s.overflow == .reports then .error .sinkFull
            else .ok 0, s) := if_pos hzero
      refine ⟨[], (hnone s).symm, ?_⟩
      rw [Receiver.writeAll, if_neg hne, htake, hnone, List.append_nil,
        refusal]
      cases s.isFull && s.overflow == .reports with
      | true => rfl
      | false => rfl
  | case3 bytes s hne count hpos ih =>
      intro taken
      have htake : receiver.take bytes s =
          (.ok count, s.accept (bytes.take count)) := if_neg hpos
      obtain ⟨passed, hafter, hrun⟩ := ih (taken ++ bytes.take count)
      have haccept : (s.accept (bytes.take count)).accept passed =
          s.accept (bytes.take count ++ passed) := by
        rw [accept, accept, accept, List.append_assoc]
      refine ⟨bytes.take count ++ passed, hafter.trans haccept, ?_⟩
      rw [Receiver.writeAll, if_neg hne, htake]
      simp only
      rw [if_neg hpos, hrun, haccept, List.append_assoc]

theorem exists_deliver_receiver (bytes : List UInt8) (s : Sink) :
    ∃ passed, (s.deliver bytes).2 = s.accept passed ∧
      receiver.deliver bytes ⟨s, []⟩ =
        ((s.deliver bytes).1, ⟨s.accept passed, passed⟩) := by
  obtain ⟨passed, hafter, hrun⟩ := exists_writeAll_receiver bytes s []
  refine ⟨passed, ?_⟩
  rw [deliver, Receiver.deliver, hrun]
  rcases hwrite : s.writeAll bytes with ⟨result, after⟩
  rw [hwrite] at hafter
  obtain rfl : after = s.accept passed := hafter
  cases result with
  | error fault => exact ⟨rfl, rfl⟩
  | ok done => exact ⟨rfl, rfl⟩

theorem finishes_receiver (bytes : List UInt8) (s : Sink) :
    receiver.Finishes bytes ⟨s, []⟩ ↔ s.flushes = true := by
  obtain ⟨passed, -, hrun⟩ := exists_writeAll_receiver bytes s []
  have hfinish : receiver.finish (s.accept passed) =
      (if s.flushes then .ok () else .error .flushFailed, s.accept passed) :=
    rfl
  rw [Receiver.Finishes, hrun, hfinish]
  cases s.flushes with
  | true => exact iff_of_true rfl rfl
  | false => exact iff_of_false (by rintro ⟨⟩) (by rintro ⟨⟩)

/-- A sink accepts a beginning of the bytes.  Handing them over works exactly
if it accepts them all and finishes, and fails with the fault that it gives. -/
theorem exists_deliver (bytes : List UInt8) (s : Sink) :
    ∃ passed, passed <+: bytes ∧ (s.deliver bytes).2 = s.accept passed ∧
      ((s.deliver bytes).1 = .ok () ↔ passed = bytes ∧ s.flushes = true) ∧
      ∀ fault, (s.deliver bytes).1 = .error fault →
        ∃ rest, passed ++ rest = bytes ∧
          receiver.Gives rest (s.accept passed) fault := by
  obtain ⟨passed, hafter, hrun⟩ := exists_deliver_receiver bytes s
  obtain ⟨begun, hbegun, htaken, hworks, hgives⟩ :=
    receiver.exists_deliver bytes ⟨s, []⟩
  rw [hrun] at htaken hgives
  obtain rfl : passed = begun := htaken
  rw [hrun, finishes_receiver] at hworks
  exact ⟨passed, hbegun, hafter, hworks, hgives⟩

end Sink

end CityMarkup
