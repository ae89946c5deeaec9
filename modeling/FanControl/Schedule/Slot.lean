import FanControl.InputError

/-!
# Schedule slots

The device keeps three slots. A slot is a window of the day, from its start up to but not
including its end, and a temperature range over which the output rises. A window whose start is
after its end runs past midnight, and one whose start is its end is empty.
-/

namespace FanControl

/-- One of the three slots of the device. -/
inductive SlotId where
  | first
  | second
  | third
deriving DecidableEq, Repr

namespace SlotId

/-- All slots, in order. -/
def all : List SlotId := [first, second, third]

/-- The number of a slot, counted from 1. -/
def number : SlotId → Nat
  | first => 1
  | second => 2
  | third => 3

/-- The number of a slot, counted from 0. -/
def index : SlotId → Nat
  | first => 0
  | second => 1
  | third => 2

/-- The slot with a number, counted from 1. -/
def ofNumber (n : Int64) : Except InputError SlotId :=
  if n = 1 then .ok first
  else if n = 2 then .ok second
  else if n = 3 then .ok third
  else .error (.invalidSlotId n)

end SlotId

/-- A time of the day. -/
structure TimeOfDay where
  hour : Nat
  minute : Nat
  second : Nat
  hour_lt : hour < 24
  minute_lt : minute < 60
  second_lt : second < 60

namespace TimeOfDay

/-- The time with an hour, a minute and a second, if there is one. -/
def ofParts? (hour minute second : Nat) : Option TimeOfDay :=
  if h : hour < 24 ∧ minute < 60 ∧ second < 60 then
    some ⟨hour, minute, second, h.1, h.2.1, h.2.2⟩
  else none

/-- Whole minutes since midnight. -/
def minuteOfDay (t : TimeOfDay) : Nat := t.hour * 60 + t.minute

end TimeOfDay

/-- A window of the day and the temperatures between which the output rises. -/
structure Slot where
  id : SlotId
  active : Bool
  startHour : UInt8
  startMinute : UInt8
  endHour : UInt8
  endMinute : UInt8
  /-- Degrees Celsius up to which the output is zero. -/
  outputAt0 : UInt8
  /-- Degrees Celsius from which the output is full. -/
  outputAt100 : UInt8
deriving DecidableEq, Repr

namespace Slot

/-- A slot that is not in use. -/
def inactive (id : SlotId) : Slot := ⟨id, false, 0, 0, 0, 0, 0, 0⟩

/-- The slot with each field held within its range. -/
def sanitize (s : Slot) : Slot where
  id := s.id
  active := s.active
  startHour := min s.startHour 23
  startMinute := min s.startMinute 59
  endHour := min s.endHour 23
  endMinute := min s.endMinute 59
  outputAt0 := min s.outputAt0 100
  outputAt100 := min s.outputAt100 100

/-- A slot of which each field is within its range. -/
structure InRange (s : Slot) : Prop where
  startHour : s.startHour ≤ 23
  startMinute : s.startMinute ≤ 59
  endHour : s.endHour ≤ 23
  endMinute : s.endMinute ≤ 59
  outputAt0 : s.outputAt0 ≤ 100
  outputAt100 : s.outputAt100 ≤ 100

/-- A slot that is held within its ranges is in range. -/
theorem inRange_sanitize (s : Slot) : s.sanitize.InRange where
  startHour := Std.min_le_right
  startMinute := Std.min_le_right
  endHour := Std.min_le_right
  endMinute := Std.min_le_right
  outputAt0 := Std.min_le_right
  outputAt100 := Std.min_le_right

/-- Holding a slot within its ranges changes nothing if it is in range. -/
theorem InRange.sanitize_eq {s : Slot} (h : s.InRange) : s.sanitize = s := by
  have hmin {x top : UInt8} (hx : x ≤ top) : min x top = x := if_pos hx
  rw [sanitize, hmin h.startHour, hmin h.startMinute, hmin h.endHour, hmin h.endMinute,
    hmin h.outputAt0, hmin h.outputAt100]

/-- The minute of the day at which the window begins. -/
def start (s : Slot) : Nat := s.startHour.toNat * 60 + s.startMinute.toNat

/-- The minute of the day at which the window is over. -/
def stop (s : Slot) : Nat := s.endHour.toNat * 60 + s.endMinute.toNat

/-- Whether a minute of the day lies in the window. -/
def contains (s : Slot) (minute : Nat) : Bool :=
  if s.start = s.stop then false
  else if s.start < s.stop then decide (s.start ≤ minute ∧ minute < s.stop)
  else decide (s.start ≤ minute ∨ minute < s.stop)

/-- Whether the slot is in use and a minute of the day lies in its window. -/
def isOpen (s : Slot) (minute : Nat) : Bool := s.active && s.contains minute

end Slot

/-- The slots that a device remembers. -/
structure SlotTable where
  first : Option Slot
  second : Option Slot
  third : Option Slot
deriving DecidableEq, Repr

namespace SlotTable

/-- No slots. -/
def empty : SlotTable := ⟨none, none, none⟩

/-- What is remembered of a slot. -/
def get (t : SlotTable) : SlotId → Option Slot
  | .first => t.first
  | .second => t.second
  | .third => t.third

/-- Replaces what is remembered of a slot. -/
def set (t : SlotTable) (id : SlotId) (s : Option Slot) : SlotTable :=
  match id with
  | .first => { t with first := s }
  | .second => { t with second := s }
  | .third => { t with third := s }

@[simp] theorem get_set_self (t : SlotTable) (id : SlotId) (s : Option Slot) :
    (t.set id s).get id = s := by
  cases id <;> rfl

/-- Replacing what is remembered of a slot leaves the others alone. -/
theorem get_set_of_ne (t : SlotTable) {id other : SlotId} (s : Option Slot) (h : other ≠ id) :
    (t.set id s).get other = t.get other := by
  cases id <;> cases other <;> first | rfl | exact absurd rfl h

@[simp] theorem set_set (t : SlotTable) (id : SlotId) (s s' : Option Slot) :
    (t.set id s).set id s' = t.set id s' := by
  cases id <;> rfl

/-- A table is what it remembers of each slot. -/
theorem ext_get {t t' : SlotTable} (h : ∀ id, t'.get id = t.get id) : t' = t := by
  cases t
  cases t'
  exact congr (congr (congrArg SlotTable.mk (h .first)) (h .second)) (h .third)

/-- The remembered slots, in order. -/
def toList (t : SlotTable) : List Slot := [t.first, t.second, t.third].filterMap id

/-- Remembers a slot under its own number. -/
def put (t : SlotTable) (s : Slot) : SlotTable := t.set s.id (some s)

end SlotTable

end FanControl
