import FanControl.Proofs.Text.Numeral

/-!
# What a form stands for

Whatever is written in a form stands for a setting: each field counts for the number that it begins
with, held within the range of the setting. **Nothing else is lost on the way**: the machine word in
which a field is counted up is wide enough for every range.

A setting that is shown in a form is read back as it was, since a printed number begins with itself
and a setting is within its range. So it makes no difference whether the texts of an operator are
sent once or are shown as what they stand for and sent again.

## Main results

* `leadingInt_exact`: what each field of a form comes to, and that it always comes to something;
* `fill_toSetting`: a form that is filled with a setting stands for it.
-/

namespace FanControl

open Text (Numeral)

/-! ### From a form to a setting -/

/-- **A field counts for the number that it begins with.** Every text begins with a number in one
way: after its blanks and at most one sign come digits, or none, which count for zero. The field is
that number, and the largest machine word with the same sign if it is too large; the scan of its
bytes finds it, and never breaks off.

In a setting it is the number itself, held within the range of the setting: a percentage, an hour, a
minute, or 32 bits. -/
theorem leadingInt_exact :
    (∀ s : String, ∃ n : Numeral s, (∀ m : Numeral s, m = n) ∧
      (leadingInt s).toInt = n.factor * (min n.magnitude 0x7FFFFFFFFFFFFFFF : Nat) ∧
      Text.scanInt? s = some (leadingInt s)) ∧
    (∀ (f : ManualForm) (n : Numeral f.pwm),
      (f.toSetting.pwm.toNat : Int) = max 0 (min 100 n.value)) ∧
    (∀ (f : AutoForm) (low : Numeral f.tmin) (high : Numeral f.tmax),
      f.toSetting.tmin.toInt = max (-0x80000000) (min 0x7FFFFFFF low.value) ∧
      f.toSetting.tmax.toInt = max (-0x80000000) (min 0x7FFFFFFF high.value)) ∧
    ∀ (f : SlotForm) (id : SlotId),
      (∀ n : Numeral f.startHour,
        ((f.toSlot id).startHour.toNat : Int) = max 0 (min 23 n.value)) ∧
      (∀ n : Numeral f.startMinute,
        ((f.toSlot id).startMinute.toNat : Int) = max 0 (min 59 n.value)) ∧
      (∀ n : Numeral f.endHour,
        ((f.toSlot id).endHour.toNat : Int) = max 0 (min 23 n.value)) ∧
      (∀ n : Numeral f.endMinute,
        ((f.toSlot id).endMinute.toNat : Int) = max 0 (min 59 n.value)) ∧
      (∀ n : Numeral f.outputAt0,
        ((f.toSlot id).outputAt0.toNat : Int) = max 0 (min 100 n.value)) ∧
      ∀ n : Numeral f.outputAt100,
        ((f.toSlot id).outputAt100.toNat : Int) = max 0 (min 100 n.value) := by
  refine ⟨fun s => ?_, fun f n => toNat_clampByte_leadingInt n (by decide), fun f low high => ?_,
    fun f id => ?_⟩
  · obtain ⟨n⟩ := Numeral.exists_numeral s
    exact ⟨n, fun m => m.eq n, toInt_leadingInt n, Text.scanInt?_eq s⟩
  · exact ⟨toInt_clampInt32_leadingInt low, toInt_clampInt32_leadingInt high⟩
  · refine ⟨?_, ?_, ?_, ?_, ?_, ?_⟩ <;>
      exact fun n => toNat_clampByte_leadingInt n (by decide)

example : leadingInt "\u2003\t-012.5 °C" = -12 := by decide

/-- Whatever is written in a form, it stands for a percentage. -/
theorem ManualForm.toSetting_le (f : ManualForm) : f.toSetting.pwm ≤ 100 := percent_le _

/-- Whatever is written in its form, a slot is in range. -/
theorem SlotForm.inRange_toSlot (f : SlotForm) (id : SlotId) : (f.toSlot id).InRange where
  startHour := UInt8.le_iff_toNat_le.mpr (toNat_clampByte_le 23 _)
  startMinute := UInt8.le_iff_toNat_le.mpr (toNat_clampByte_le 59 _)
  endHour := UInt8.le_iff_toNat_le.mpr (toNat_clampByte_le 23 _)
  endMinute := UInt8.le_iff_toNat_le.mpr (toNat_clampByte_le 59 _)
  outputAt0 := UInt8.le_iff_toNat_le.mpr (toNat_clampByte_le 100 _)
  outputAt100 := UInt8.le_iff_toNat_le.mpr (toNat_clampByte_le 100 _)

/-! ### And back -/

/-- A byte that is shown is read back, if it is within its range. -/
theorem clampByte_toString (top : Nat) (htop : top ≤ 255) {x : UInt8} (hx : x ≤ UInt8.ofNat top) :
    clampByte top (leadingInt (toString x.toNat)) = x := by
  obtain ⟨n, hn⟩ := Numeral.exists_ofNat x.toNat
  have hclamp := toNat_clampByte_leadingInt n htop
  rw [UInt8.le_iff_toNat_le, UInt8.toNat_ofNat', Nat.mod_eq_of_lt (by omega)] at hx
  rw [hn] at hclamp
  refine UInt8.toNat_inj.mp ?_
  omega

/-- A number of 32 bits that is shown is read back. -/
theorem clampInt32_toString (x : Int32) : clampInt32 (leadingInt (toString x.toInt)) = x := by
  obtain ⟨n, hn⟩ := Numeral.exists_ofInt x.toInt
  have hbounds := int32_bounds x
  have hclamp := toInt_clampInt32_leadingInt n
  rw [hn] at hclamp
  refine Int32.toInt_inj.mp ?_
  omega

/-- A form that shows a percentage stands for it. -/
theorem ManualForm.toSetting_ofSetting {s : ManualSetting} (h : s.pwm ≤ 100) :
    (ofSetting s).toSetting = s :=
  congrArg ManualSetting.mk (clampByte_toString 100 (by decide) h)

/-- A form that shows a band stands for it. -/
theorem AutoForm.toSetting_ofSetting (s : AutoSetting) : (ofSetting s).toSetting = s := by
  rw [toSetting, ofSetting, clampInt32_toString, clampInt32_toString]

/-- A form that shows a slot in range stands for it. -/
theorem SlotForm.toSlot_ofSlot {s : Slot} (h : s.InRange) : (ofSlot s).toSlot s.id = s := by
  rw [toSlot, ofSlot, clampByte_toString 23 (by decide) h.startHour,
    clampByte_toString 59 (by decide) h.startMinute,
    clampByte_toString 23 (by decide) h.endHour,
    clampByte_toString 59 (by decide) h.endMinute,
    clampByte_toString 100 (by decide) h.outputAt0,
    clampByte_toString 100 (by decide) h.outputAt100]

/-- **A setting that a form is filled with is what the form stands for**, whatever was written in
the form before, if the setting is within its range; every band is.

What an operator has written stands for a setting within its range. So a form that is filled with
that setting stands for the same, and to fill a form with what it then stands for changes nothing
more. -/
theorem fill_toSetting :
    (∀ (f : ManualForm) (s : ManualSetting), s.pwm ≤ 100 → (f.fill s).toSetting = s) ∧
    (∀ (f : AutoForm) (s : AutoSetting), (f.fill s).toSetting = s) ∧
    (∀ (f : SlotForm) (s : Slot), s.InRange → (f.fill s).toSlot s.id = s) ∧
    (∀ f g h : ManualForm, (g.fill f.toSetting).toSetting = f.toSetting ∧
      h.fill (g.fill f.toSetting).toSetting = g.fill f.toSetting) ∧
    (∀ f g h : AutoForm, (g.fill f.toSetting).toSetting = f.toSetting ∧
      h.fill (g.fill f.toSetting).toSetting = g.fill f.toSetting) ∧
    ∀ (f g h : SlotForm) (id : SlotId), (g.fill (f.toSlot id)).toSlot id = f.toSlot id ∧
      h.fill ((g.fill (f.toSlot id)).toSlot id) = g.fill (f.toSlot id) := by
  have hmanual (f : ManualForm) (s : ManualSetting) (hs : s.pwm ≤ 100) :
      (f.fill s).toSetting = s := ManualForm.toSetting_ofSetting hs
  have hauto (f : AutoForm) (s : AutoSetting) : (f.fill s).toSetting = s :=
    AutoForm.toSetting_ofSetting s
  have hslot (f : SlotForm) (s : Slot) (hs : s.InRange) : (f.fill s).toSlot s.id = s :=
    SlotForm.toSlot_ofSlot hs
  refine ⟨hmanual, hauto, hslot, fun f g h => ?_, fun f g h => ?_, fun f g h id => ?_⟩
  · have hagain := hmanual g f.toSetting f.toSetting_le
    exact ⟨hagain, congrArg h.fill hagain⟩
  · have hagain := hauto g f.toSetting
    exact ⟨hagain, congrArg h.fill hagain⟩
  · have hagain := hslot g (f.toSlot id) (f.inRange_toSlot id)
    exact ⟨hagain, congrArg h.fill hagain⟩

/-- The widest settings come back from forms that held something else. -/
theorem fill_toSetting_widest :
    let slot : Slot := ⟨.third, true, 23, 59, 0, 0, 100, 0⟩
    let busy : SlotForm := ⟨false, " 7h", "x", "-3", "", "+99", "1000"⟩
    ((ManualForm.mk "12").fill ⟨100⟩).toSetting = ⟨100⟩ ∧
    ((AutoForm.mk "4" "").fill ⟨Int32.maxValue, Int32.minValue⟩).toSetting =
      ⟨Int32.maxValue, Int32.minValue⟩ ∧
    slot.InRange ∧ (busy.fill slot).toSlot .third = slot := by
  intro slot busy
  have hrange : slot.InRange := by constructor <;> decide
  exact ⟨fill_toSetting.1 _ ⟨100⟩ (by decide), fill_toSetting.2.1 _ _, hrange,
    fill_toSetting.2.2.1 busy slot hrange⟩

end FanControl
