import CityMarkup.Storage.Sink

/-!
# Sinks that do not fail

A sink that has room for some bytes, takes at least one of them at a time and
finishes when it is told to accepts all of them in order, however small the
portions are.
-/

namespace CityMarkup

namespace Sink

/-- Whether a sink does not fail for so many bytes. -/
structure Takes (s : Sink) (size : Nat) : Prop where
  flushes : s.flushes = true
  portion : s.portion ≠ some 0
  room : ∀ limit, s.limit = some limit → s.accepted.length + size ≤ limit

theorem Takes.capacity_pos {s : Sink} {size : Nat} (h : s.Takes size)
    (hsize : 0 < size) : 0 < s.capacity size := by
  have hportion : 0 < bounded size s.portion := by
    cases hbound : s.portion with
    | none => exact hsize
    | some bound =>
        have hne : bound ≠ 0 := fun hzero => h.portion (hzero ▸ hbound)
        exact Nat.lt_min.mpr ⟨hsize, Nat.pos_of_ne_zero hne⟩
  rw [capacity]
  cases hlimit : s.limit with
  | none => exact hportion
  | some limit =>
      have hroom := h.room limit hlimit
      have hleft : 0 < limit - s.accepted.length := by omega
      exact Nat.lt_min.mpr ⟨hportion, hleft⟩

/-- After a portion there is room for the rest. -/
theorem Takes.accept {s : Sink} {bytes : List UInt8}
    (h : s.Takes bytes.length) (count : Nat) :
    (s.accept (bytes.take count)).Takes (bytes.drop count).length where
  flushes := h.flushes
  portion := h.portion
  room := by
    intro limit hlimit
    have hroom := h.room limit hlimit
    simp only [Sink.accept, List.length_append, List.length_take,
      List.length_drop]
    omega

theorem writeAll_of_takes (bytes : List UInt8) (s : Sink)
    (h : s.Takes bytes.length) :
    s.writeAll bytes = (.ok (), s.accept bytes) := by
  fun_induction writeAll bytes s with
  | case1 bytes s hempty =>
      rw [List.isEmpty_iff.mp hempty, accept, List.append_nil]
  | case2 bytes s hne count hzero =>
      have hsize : 0 < bytes.length :=
        List.length_pos_iff.mpr fun hnil => hne (List.isEmpty_iff.mpr hnil)
      exact absurd hzero (Nat.ne_of_gt (h.capacity_pos hsize))
  | case3 bytes s hne count hpos ih =>
      rw [ih (h.accept count), accept, accept, accept, List.append_assoc,
        List.take_append_drop]

/-- A sink that does not fail accepts exactly the bytes it is given. -/
theorem deliver_of_takes {s : Sink} {bytes : List UInt8}
    (h : s.Takes bytes.length) :
    s.deliver bytes = (.ok (), s.accept bytes) := by
  have hflushes : (s.accept bytes).flushes = true := h.flushes
  rw [deliver, writeAll_of_takes bytes s h]
  simp only [hflushes, if_true]

end Sink

end CityMarkup
