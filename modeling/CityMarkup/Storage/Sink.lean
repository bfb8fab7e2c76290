import CityMarkup.Failure

/-!
# Sinks for bytes

A sink takes the bytes of a document, some at a time, and never more than it is
offered.  It may stop taking bytes after a limit, either by reporting that it is
full or by taking nothing more, and it may fail when it is told that everything
has been handed over.  A fault ends the delivery: it is none of those, such as
an interruption, after which the same bytes are offered again.
-/

namespace CityMarkup

/-- How a sink behaves once its limit is reached. -/
inductive Overflow where
  | reports
  | takesNothing
deriving DecidableEq, Repr

/-- A place that bytes are handed to, with the bytes it has accepted. -/
structure Sink where
  /-- The number of bytes accepted in all. -/
  limit : Option Nat
  /-- The number of bytes accepted at once. -/
  portion : Option Nat
  overflow : Overflow
  flushes : Bool
  accepted : List UInt8
deriving DecidableEq, Repr

namespace Sink

/-- A sink that accepts everything. -/
def unlimited : Sink :=
  ⟨none, none, .reports, true, []⟩

/-- The smaller of a number and a bound, if there is one. -/
def bounded (n : Nat) : Option Nat → Nat
  | none => n
  | some bound => min n bound

/-- How many of the offered bytes the sink accepts at once. -/
def capacity (s : Sink) (offered : Nat) : Nat :=
  bounded (bounded offered s.portion)
    (s.limit.map fun limit => limit - s.accepted.length)

/-- Whether the limit is reached. -/
def isFull (s : Sink) : Bool :=
  s.limit.any fun limit => decide (limit ≤ s.accepted.length)

/-- Takes some bytes into the sink. -/
def accept (s : Sink) (bytes : List UInt8) : Sink :=
  { s with accepted := s.accepted ++ bytes }

/-- Why a sink accepts nothing of what it is offered. -/
def refusal (s : Sink) : IoFault :=
  if s.isFull && s.overflow == .reports then .sinkFull else .sinkStuck

/-- Hands over bytes as often as the sink accepts some of them. -/
def writeAll (bytes : List UInt8) (s : Sink) : Except IoFault Unit × Sink :=
  if bytes.isEmpty then
    (.ok (), s)
  else
    let count := s.capacity bytes.length
    if count = 0 then
      (.error s.refusal, s)
    else
      writeAll (bytes.drop count) (s.accept (bytes.take count))
termination_by bytes.length
decreasing_by
  rename_i h h'
  have : 0 < bytes.length := by
    cases bytes with
    | nil => simp at h
    | cons => simp
  have : 0 < s.capacity bytes.length := Nat.pos_of_ne_zero h'
  simp only [List.length_drop]
  omega

/-- Hands over bytes and then asks the sink to finish. -/
def deliver (bytes : List UInt8) (s : Sink) : Except IoFault Unit × Sink :=
  match s.writeAll bytes with
  | (.error fault, s) => (.error fault, s)
  | (.ok (), s) => (if s.flushes then .ok () else .error .flushFailed, s)

end Sink

end CityMarkup
