import FanControl.Schedule.Slot
import Mathlib.Logic.Relation

/-!
# The first open slot

A window of the day is an arc of a clock with 1440 minutes on it, from the start of the slot up to
its stop: a minute lies on the arc just when it comes sooner after the start than the stop does.
This is one condition for the windows that end on the same day, for those that run past midnight and
for the empty ones.

**Only the first open slot matters.** Whatever is done to slots that are not open, and to those that
stand behind one that is, the same slot is found.

## Main results

* `Slot.isOpen_iff`: a window is an arc of the day;
* `Slot.find?_isOpen_of_first`: which slot is found;
* `Slot.find?_eq_of_edits`: edits that do not change it.
-/

namespace FanControl

namespace Slot

variable {s : Slot} {minute : Nat} {slots slots' : List Slot}

/-! ### Arcs of the day -/

/-- Whether the slot is in use and a minute of the day lies on its arc: the minute comes sooner
after the start than the stop does, around the clock. -/
def OpenOn (s : Slot) (minute : Nat) : Prop :=
  s.active = true ∧ ((minute : Int) - s.start) % 1440 < ((s.stop : Int) - s.start) % 1440

/-- A slot in range begins on the day. -/
theorem InRange.start_lt (h : s.InRange) : s.start < 1440 := by
  have hhour : s.startHour.toNat ≤ 23 := UInt8.le_iff_toNat_le.mp h.startHour
  have hminute : s.startMinute.toNat ≤ 59 := UInt8.le_iff_toNat_le.mp h.startMinute
  rw [start]
  omega

/-- A slot in range is over on the day. -/
theorem InRange.stop_lt (h : s.InRange) : s.stop < 1440 := by
  have hhour : s.endHour.toNat ≤ 23 := UInt8.le_iff_toNat_le.mp h.endHour
  have hminute : s.endMinute.toNat ≤ 59 := UInt8.le_iff_toNat_le.mp h.endMinute
  rw [stop]
  omega

/-- **A window is an arc of the day.** -/
theorem contains_iff (hs : s.InRange) (hminute : minute < 1440) :
    s.contains minute = true ↔
      ((minute : Int) - s.start) % 1440 < ((s.stop : Int) - s.start) % 1440 := by
  have hstart := hs.start_lt
  have hstop := hs.stop_lt
  rw [contains]
  generalize s.start = start at *
  generalize s.stop = stop at *
  split
  · -- the arc from a minute to itself is empty
    simp only [Bool.false_eq_true, false_iff]
    omega
  · split
    · rw [decide_eq_true_eq]
      omega
    · rw [decide_eq_true_eq]
      omega

/-- A slot is open just when it is in use and the minute lies on its arc. -/
theorem isOpen_iff (hs : s.InRange) (hminute : minute < 1440) :
    s.isOpen minute = true ↔ s.OpenOn minute := by
  rw [isOpen, Bool.and_eq_true, contains_iff hs hminute, OpenOn]

/-- A slot that is not in use, or on whose arc the minute does not lie, is not found open. -/
theorem isOpen_eq_false (hs : s.InRange) (hminute : minute < 1440) (hclosed : ¬ s.OpenOn minute) :
    s.isOpen minute = false :=
  Bool.eq_false_iff.mpr fun hopen => hclosed ((isOpen_iff hs hminute).mp hopen)

/-! ### The first open slot -/

/-- A slot that is open hides all behind it. -/
theorem find?_append_open (before after : List Slot) (hminute : minute < 1440)
    (hs : s.InRange) (hopen : s.OpenOn minute) :
    (before ++ s :: after).find? (fun x => x.isOpen minute) =
      (before.find? fun x => x.isOpen minute).or (some s) := by
  simp only [List.find?_append, List.find?_cons, (isOpen_iff hs hminute).mpr hopen]

/-- A slot that is not open is passed over. -/
theorem find?_append_closed (before after : List Slot) (hminute : minute < 1440)
    (hs : s.InRange) (hclosed : ¬ s.OpenOn minute) :
    (before ++ s :: after).find? (fun x => x.isOpen minute) =
      (before ++ after).find? (fun x => x.isOpen minute) := by
  simp only [List.find?_append, List.find?_cons, isOpen_eq_false hs hminute hclosed]

/-- Without an open slot none is found. -/
theorem find?_isOpen_eq_none (hminute : minute < 1440) (hslots : ∀ x ∈ slots, x.InRange)
    (hclosed : ∀ x ∈ slots, ¬ x.OpenOn minute) :
    slots.find? (fun x => x.isOpen minute) = none := by
  rw [List.find?_eq_none]
  intro x hx
  rw [isOpen_eq_false (hslots x hx) hminute (hclosed x hx)]
  exact Bool.false_ne_true

/-- The first open slot is found. -/
theorem find?_isOpen_of_first {before after : List Slot} (hminute : minute < 1440)
    (hslots : ∀ x ∈ before ++ s :: after, x.InRange)
    (hbefore : ∀ x ∈ before, ¬ x.OpenOn minute) (hopen : s.OpenOn minute) :
    (before ++ s :: after).find? (fun x => x.isOpen minute) = some s := by
  have hnone := find?_isOpen_eq_none hminute
    (fun x hx => hslots x (List.mem_append_left _ hx)) hbefore
  rw [find?_append_open before after hminute (hslots s (by simp)) hopen, hnone, Option.none_or]

/-! ### Edits that do not matter -/

/-- An edit of a list of slots that leaves alone those that are open, or those up to one of them. -/
inductive IdleEdit (minute : Nat) : List Slot → List Slot → Prop
  /-- A slot that is not open is put in. -/
  | insert (before after : List Slot) {s : Slot} (inRange : s.InRange)
      (closed : ¬ s.OpenOn minute) : IdleEdit minute (before ++ after) (before ++ s :: after)
  /-- A slot that is not open is taken out. -/
  | remove (before after : List Slot) {s : Slot} (closed : ¬ s.OpenOn minute) :
      IdleEdit minute (before ++ s :: after) (before ++ after)
  /-- A slot that is not open becomes another one that is not. -/
  | change (before after : List Slot) {s s' : Slot} (inRange : s'.InRange)
      (closed : ¬ s.OpenOn minute) (closed' : ¬ s'.OpenOn minute) :
      IdleEdit minute (before ++ s :: after) (before ++ s' :: after)
  /-- Anything is done behind a slot that is open. -/
  | behind (before after after' : List Slot) {s : Slot} (opened : s.OpenOn minute)
      (inRange : ∀ x ∈ after', x.InRange) :
      IdleEdit minute (before ++ s :: after) (before ++ s :: after')

/-- The slots are in range after an edit if they were before. -/
theorem IdleEdit.inRange (h : IdleEdit minute slots slots') (hslots : ∀ x ∈ slots, x.InRange) :
    ∀ x ∈ slots', x.InRange := by
  cases h with
  | insert before after inRange =>
      simp only [List.forall_mem_append, List.forall_mem_cons] at hslots ⊢
      exact ⟨hslots.1, inRange, hslots.2⟩
  | remove before after =>
      simp only [List.forall_mem_append, List.forall_mem_cons] at hslots ⊢
      exact ⟨hslots.1, hslots.2.2⟩
  | change before after inRange =>
      simp only [List.forall_mem_append, List.forall_mem_cons] at hslots ⊢
      exact ⟨hslots.1, inRange, hslots.2.2⟩
  | behind before after after' _ inRange =>
      simp only [List.forall_mem_append, List.forall_mem_cons] at hslots ⊢
      exact ⟨hslots.1, hslots.2.1, inRange⟩

/-- **The same slot decides after an edit.** -/
theorem IdleEdit.find?_eq (h : IdleEdit minute slots slots') (hminute : minute < 1440)
    (hslots : ∀ x ∈ slots, x.InRange) :
    slots'.find? (fun x => x.isOpen minute) = slots.find? (fun x => x.isOpen minute) := by
  cases h with
  | insert before after inRange closed =>
      exact find?_append_closed before after hminute inRange closed
  | remove before after closed =>
      exact (find?_append_closed before after hminute (hslots _ (by simp)) closed).symm
  | change before after inRange closed closed' =>
      rw [find?_append_closed before after hminute inRange closed',
        find?_append_closed before after hminute (hslots _ (by simp)) closed]
  | @behind before after after' s opened inRange =>
      have hs := hslots s (by simp)
      rw [find?_append_open before after hminute hs opened,
        find?_append_open before after' hminute hs opened]

/-- The same slot decides after any number of edits, and all slots are still in range. -/
theorem find?_eq_of_edits (h : Relation.ReflTransGen (IdleEdit minute) slots slots')
    (hminute : minute < 1440) (hslots : ∀ x ∈ slots, x.InRange) :
    (∀ x ∈ slots', x.InRange) ∧
      slots'.find? (fun x => x.isOpen minute) = slots.find? (fun x => x.isOpen minute) := by
  induction h with
  | refl => exact ⟨hslots, rfl⟩
  | tail _ edit ih => exact ⟨edit.inRange ih.1, (edit.find?_eq hminute ih.1).trans ih.2⟩

end Slot

end FanControl
