import FanControl.Schedule.Slot
import FanControl.Settings
import FanControl.Text.Blank

/-!
# Forms

What an operator edits is text. Turning a form into a setting never fails: a field counts for the
whole number that it starts with, or for zero, held within the range of the setting. Filling a
form writes a setting back as text.
-/

namespace FanControl

/-- Appends a decimal digit to a magnitude, stopping at the largest number of 64 bits with a
sign. -/
def appendDigit (n : Nat) (c : Char) : Nat :=
  min (min (n * 10) 0x7FFFFFFFFFFFFFFF + (c.toNat - 48)) 0x7FFFFFFFFFFFFFFF

/-- The whole number that a text starts with, after blanks and at most one sign. Without a digit
there it is zero, and a number too large is replaced by the largest. -/
def leadingInt (s : String) : Int64 :=
  let cs := s.toList.dropWhile Text.isBlank
  let (negative, cs) := match cs with
    | '-' :: rest => (true, rest)
    | '+' :: rest => (false, rest)
    | cs => (false, cs)
  let magnitude := (cs.takeWhile Char.isDigit).foldl appendDigit 0
  Int64.ofInt (if negative then -magnitude else magnitude)

/-- The form of the manual panel. -/
structure ManualForm where
  pwm : String
deriving DecidableEq, Repr

namespace ManualForm

/-- A form nobody has written in. -/
def empty : ManualForm := ⟨""⟩

/-- The setting that the form stands for. -/
def toSetting (f : ManualForm) : ManualSetting := .ofInt64 (leadingInt f.pwm)

/-- The form that shows a setting. -/
def ofSetting (s : ManualSetting) : ManualForm := ⟨toString s.pwm.toNat⟩

/-- A form that is filled with a setting, over what is written in it. -/
def fill (f : ManualForm) (s : ManualSetting) : ManualForm := { f with pwm := toString s.pwm.toNat }

/-- Filling a form leaves nothing of what was written in it. -/
theorem fill_eq (f : ManualForm) (s : ManualSetting) : f.fill s = .ofSetting s := rfl

end ManualForm

/-- The form of the automatic panel. -/
structure AutoForm where
  tmin : String
  tmax : String
deriving DecidableEq, Repr

namespace AutoForm

/-- A form nobody has written in. -/
def empty : AutoForm := ⟨"", ""⟩

/-- The band that the form stands for. Its bounds are not put in order. -/
def toSetting (f : AutoForm) : AutoSetting :=
  ⟨clampInt32 (leadingInt f.tmin), clampInt32 (leadingInt f.tmax)⟩

/-- The form that shows a band. -/
def ofSetting (s : AutoSetting) : AutoForm := ⟨toString s.tmin.toInt, toString s.tmax.toInt⟩

/-- A form that is filled with a band, over what is written in it. -/
def fill (f : AutoForm) (s : AutoSetting) : AutoForm :=
  { f with tmin := toString s.tmin.toInt, tmax := toString s.tmax.toInt }

/-- Filling a form leaves nothing of what was written in it. -/
theorem fill_eq (f : AutoForm) (s : AutoSetting) : f.fill s = .ofSetting s := rfl

end AutoForm

/-- The form of the schedule panel. -/
structure SlotForm where
  active : Bool
  startHour : String
  startMinute : String
  endHour : String
  endMinute : String
  outputAt0 : String
  outputAt100 : String
deriving DecidableEq, Repr

namespace SlotForm

/-- A form nobody has written in. -/
def empty : SlotForm := ⟨false, "", "", "", "", "", ""⟩

/-- The slot that the form stands for. -/
def toSlot (f : SlotForm) (id : SlotId) : Slot where
  id
  active := f.active
  startHour := clampByte 23 (leadingInt f.startHour)
  startMinute := clampByte 59 (leadingInt f.startMinute)
  endHour := clampByte 23 (leadingInt f.endHour)
  endMinute := clampByte 59 (leadingInt f.endMinute)
  outputAt0 := clampByte 100 (leadingInt f.outputAt0)
  outputAt100 := clampByte 100 (leadingInt f.outputAt100)

/-- The form that shows a slot. -/
def ofSlot (s : Slot) : SlotForm where
  active := s.active
  startHour := toString s.startHour.toNat
  startMinute := toString s.startMinute.toNat
  endHour := toString s.endHour.toNat
  endMinute := toString s.endMinute.toNat
  outputAt0 := toString s.outputAt0.toNat
  outputAt100 := toString s.outputAt100.toNat

/-- A form that is filled with a slot, over what is written in it. -/
def fill (f : SlotForm) (s : Slot) : SlotForm :=
  { f with
    active := s.active
    startHour := toString s.startHour.toNat
    startMinute := toString s.startMinute.toNat
    endHour := toString s.endHour.toNat
    endMinute := toString s.endMinute.toNat
    outputAt0 := toString s.outputAt0.toNat
    outputAt100 := toString s.outputAt100.toNat }

/-- Filling a form leaves nothing of what was written in it. -/
theorem fill_eq (f : SlotForm) (s : Slot) : f.fill s = .ofSlot s := rfl

end SlotForm

end FanControl
