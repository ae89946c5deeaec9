import FanControl.Proofs.Ramp
import FanControl.Proofs.Schedule.OpenSlot

/-!
# What the device drives

The output is what is set by hand, zero, or what the ramp gives at the temperature. So it is **a
percentage at every temperature**, whatever its bits are, if the one that is set by hand is.

By the schedule the ramp is that of the first open slot. The other slots have no part in it, so they
may be edited without any change of the output.

## Main results

* `outputLevel_le`: the output is a percentage;
* `outputLevel_scheduled`: the output by the schedule.
-/

namespace FanControl

/-! ### A percentage -/

/-- **The output is a percentage** in every mode, if the one that is set by hand is. -/
theorem outputLevel_le {i : FanInputs} (h : i.manual.pwm ≤ 100) : outputLevel i ≤ 100 := by
  rw [outputLevel]
  split
  · exact h
  · split
    · exact ramp_le ..
    · decide
  · split
    · split
      · exact ramp_le ..
      · decide
    · decide
  · decide

/-! ### The output by the schedule -/

variable {i : FanInputs}

/-- The output by the schedule, while somebody is present, comes from the slot that is found. -/
theorem outputLevel_of_find? (hmode : i.mode = some .scheduled) (hpresence : i.presence = true) :
    outputLevel i =
      match i.slots.find? fun s => s.isOpen i.minute with
      | some s =>
        ramp i.temperature (Int32.ofNat s.outputAt0.toNat) (Int32.ofNat s.outputAt100.toNat)
      | none => 0 := by
  rw [outputLevel, hmode]
  exact if_pos hpresence

/-- Nothing is driven by the schedule while nobody is present. -/
theorem outputLevel_of_absent (hmode : i.mode = some .scheduled) (hpresence : i.presence = false) :
    outputLevel i = 0 := by
  simp [outputLevel, hmode, hpresence]

/-- **The output by the schedule is that of the first open slot**, whose temperatures are those of
the ramp. It is zero if no slot is open or nobody is present. Slots that are not open, and all that
stand behind one that is, have no part in it: any number of edits to them leaves the output as it
is. -/
theorem outputLevel_scheduled (hmode : i.mode = some .scheduled) (hminute : i.minute < 1440)
    (hslots : ∀ s ∈ i.slots, s.InRange) :
    (i.presence = true →
      (∀ before s after, i.slots = before ++ s :: after →
        (∀ x ∈ before, ¬ x.OpenOn i.minute) → s.OpenOn i.minute →
          outputLevel i =
            ramp i.temperature (Int32.ofNat s.outputAt0.toNat) (Int32.ofNat s.outputAt100.toNat)) ∧
      ((∀ s ∈ i.slots, ¬ s.OpenOn i.minute) → outputLevel i = 0)) ∧
    (i.presence = false → outputLevel i = 0) ∧
    ∀ slots, Relation.ReflTransGen (Slot.IdleEdit i.minute) i.slots slots →
      outputLevel { i with slots } = outputLevel i := by
  refine ⟨fun hpresence => ⟨?_, ?_⟩, outputLevel_of_absent hmode, ?_⟩
  · intro before s after heq hbefore hopen
    rw [outputLevel_of_find? hmode hpresence, heq,
      Slot.find?_isOpen_of_first hminute (heq ▸ hslots) hbefore hopen]
  · intro hclosed
    rw [outputLevel_of_find? hmode hpresence, Slot.find?_isOpen_eq_none hminute hslots hclosed]
  · intro slots hedits
    by_cases hpresence : i.presence = true
    · rw [outputLevel_of_find? hmode hpresence,
        outputLevel_of_find? (i := { i with slots }) hmode hpresence,
        (Slot.find?_eq_of_edits hedits hminute hslots).2]
    · have habsent := Bool.eq_false_iff.mpr hpresence
      rw [outputLevel_of_absent hmode habsent,
        outputLevel_of_absent (i := { i with slots }) hmode habsent]

/-- At a quarter past midnight somebody is present at 25 °C. -/
def quarterPast : FanInputs where
  mode := some .scheduled
  temperature := ⟨0x41C80000⟩
  presence := true
  minute := 15
  manual := ⟨0⟩
  auto := ⟨20, 30⟩
  slots := [⟨.first, false, 0, 0, 23, 59, 0, 10⟩, ⟨.second, true, 0, 15, 0, 15, 0, 10⟩,
    ⟨.third, true, 22, 30, 6, 0, 20, 30⟩, ⟨.first, true, 0, 0, 23, 59, 0, 10⟩]

/-- A slot that is not in use and an empty one are passed over, and the one that runs past midnight
decides, not the one behind it. -/
theorem outputLevel_scheduled_pastMidnight :
    quarterPast.mode = some .scheduled ∧ quarterPast.minute < 1440 ∧
    (∀ s ∈ quarterPast.slots, s.InRange) ∧ outputLevel quarterPast = 50 ∧
    outputLevel { quarterPast with slots := quarterPast.slots.take 3 } = 50 := by
  have hslots : ∀ s ∈ quarterPast.slots, s.InRange := by
    simp only [quarterPast, List.forall_mem_cons]
    refine ⟨?_, ?_, ?_, ?_, by simp⟩ <;> exact ⟨by decide, by decide, by decide, by decide,
      by decide, by decide⟩
  obtain ⟨hpresent, -, hedit⟩ := outputLevel_scheduled (i := quarterPast) rfl (by decide) hslots
  have hopen : Slot.OpenOn ⟨.third, true, 22, 30, 6, 0, 20, 30⟩ 15 := ⟨rfl, by decide⟩
  have hlevel : outputLevel quarterPast = 50 := by
    rw [(hpresent rfl).1 [_, _] _ [_] rfl ?_ hopen]
    · decide +kernel
    · simp only [List.forall_mem_cons]
      refine ⟨?_, ?_, by simp⟩
      · rintro ⟨hactive, -⟩
        cases hactive
      · rintro ⟨-, hsooner⟩
        exact absurd hsooner (by decide)
  refine ⟨rfl, by decide, hslots, hlevel, ?_⟩
  have hbehind := hedit (quarterPast.slots.take 3)
    (.single (.behind [_, _] [_] [] hopen (by simp)))
  rw [hbehind, hlevel]

end FanControl
