import Mathlib.Data.List.Basic

/-!
# The last write counts

Where each step either writes something new in a place or leaves the place alone, **the place holds
what the last step that wrote has written**, whatever else the steps between have done. Such a place
may be a field of a state or anything else that can be read off it.
-/

namespace FanControl

variable {σ μ α β : Type}

/-- **The last write counts.** A place that each step writes or leaves alone holds, after some
steps, what the last of them that wrote has written, and what it held at first if none did. -/
theorem foldl_lastWrite {step : σ → μ → σ} {place : σ → β} {writes : μ → Option α} {write : α → β}
    (hstep : ∀ s m, place (step s m) = (writes m).elim (place s) write) (s : σ) (ms : List μ) :
    place (ms.foldl step s) = (ms.filterMap writes).getLast?.elim (place s) write := by
  induction ms generalizing s with
  | nil => rfl
  | cons m ms ih =>
      rw [List.foldl_cons, ih, hstep, List.filterMap_cons]
      cases writes m with
      | none => rfl
      | some a =>
          rw [List.getLast?_cons]
          cases (ms.filterMap writes).getLast? <;> rfl

end FanControl
