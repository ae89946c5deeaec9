import Mathlib.Data.List.DropRight
import Mathlib.Data.List.TakeWhile
import FanControl.Device.Server
import FanControl.Proofs.FanLaw
import FanControl.Proofs.Schedule.RoundTrip

/-!
# The memories that a device can have

A device is asked and told things for as long as it is switched on, by anybody and with bodies that
may hold anything. What a single request can do to its memory is little: `Device.Write` lists it,
with what is known of the data that is stored. From the list follows what **every memory that can be
reached from a switched-on device** is like, `Device.Consistent`: nothing in it is out of range, a
slot lies under its own number, and the parts that tell of one event agree with each other. What
the device drives is then a percentage at every minute of the day.

## Main results

* `Device.write_serve`: what a request can do;
* `Device.Consistent.write`: it keeps a memory consistent;
* `Device.serveAll_consistent`: so do any requests, one after another.
-/

namespace FanControl

open Http Json

/-- A text is trimmed to nothing just when all of it is blank. -/
theorem Text.trim_eq_empty_iff {s : String} : trim s = "" ↔ ∀ c ∈ s.toList, isBlank c = true := by
  have hempty (cs : List Char) : String.ofList cs = "" ↔ cs = [] := by
    rw [← String.toList_inj, String.toList_ofList]
    rfl
  calc trim s = ""
      ↔ List.rdropWhile isBlank (s.toList.dropWhile isBlank) = [] := hempty _
    _ ↔ (s.toList.dropWhile isBlank).dropWhile isBlank = [] := by
        rw [List.rdropWhile_eq_nil_iff, List.dropWhile_eq_nil_iff]
    _ ↔ ∀ c ∈ s.toList, isBlank c = true := by
        rw [List.dropWhile_idempotent, List.dropWhile_eq_nil_iff]

namespace Device

/-! ### What a request can do -/

/-- What one request can do to a memory. -/
inductive Write (d : Device) : Device → Prop
  | nothing : Write d d
  | manual (pwm : Int64) : Write d ({ d with manual := .ofInt64 pwm }.inMode .manual)
  | auto (band : AutoSetting) : Write d ({ d with auto := band }.inMode .auto)
  | slot (s : Slot) (inRange : s.InRange) :
      Write d ({ d with slots := d.slots.put s }.inMode .scheduled)
  | erase (id : SlotId) : Write d { d with slots := d.slots.set id none }
  | image (data : Bytes) : Write d (d.received data)
  | network (name : String) (shown : ∃ c ∈ name.toList, Text.isBlank c = false) :
      Write d { d with ssid := some name, wifi := .connecting }

variable {d d' : Device}

/-- A body that cannot be read writes nothing. -/
theorem Write.withBody {α : Type} {body : Except Response α} {store : α → Response × Device}
    (h : ∀ a, d.Write (store a).2) : d.Write (d.withBody body store).2 := by
  cases body with
  | error response => exact .nothing
  | ok a => exact h a

/-- Storing a manual output is one of the writes, or nothing. -/
theorem write_setManual (d : Device) (body : Value) : d.Write (d.setManual body).2 := by
  rw [setManual]
  split
  · exact .nothing
  · exact .manual _

/-- Storing a band is one of the writes, or nothing. -/
theorem write_setAuto (d : Device) (body : Value) : d.Write (d.setAuto body).2 := by
  rw [setAuto]
  split
  · exact .auto _
  · exact .nothing

/-- Storing a slot is one of the writes, or nothing: what has been read is in range. -/
theorem write_setSlot (d : Device) (dialect : Dialect) (body : Value) :
    d.Write (d.setSlot dialect body).2 := by
  rw [setSlot]
  split
  · exact .nothing
  · next s hread => exact .slot s (dialect.inRange_of_decodeSet hread)

/-- Erasing a slot is one of the writes, or nothing. -/
theorem write_eraseSlot (d : Device) (dialect : Dialect) (body : Value) :
    d.Write (d.eraseSlot dialect body).2 := by
  rw [eraseSlot]
  split
  · exact .nothing
  · exact .erase _

/-- Receiving an image is one of the writes, or nothing. -/
theorem write_receiveImage (d : Device) (r : Request) : d.Write (d.receiveImage r).2 := by
  rw [receiveImage]
  split
  · exact .nothing
  · split
    · exact .nothing
    · split
      · exact .nothing
      · exact .image _

/-- Taking credentials is one of the writes, or nothing if the name is blank. -/
theorem write_connectWifi (d : Device) (c : Wifi.Credentials) : d.Write (d.connectWifi c).2 := by
  rw [connectWifi]
  split
  · exact .nothing
  · next hname =>
    refine .network c.ssid ?_
    simpa [Text.trim_eq_empty_iff] using hname

/-- What any route does to the memory is one of the writes, or nothing. -/
theorem write_handle (d : Device) (minute : Nat) (route : Route) (r : Request) :
    d.Write (d.handle minute route r).2 := by
  cases route with
  | status | manual | auto | slot | verdict | wifiStatus => exact .nothing
  | setManual => exact .withBody d.write_setManual
  | setAuto => exact .withBody d.write_setAuto
  | setSlot dialect => exact .withBody (d.write_setSlot dialect)
  | eraseSlot dialect => exact .withBody (d.write_eraseSlot dialect)
  | upload => exact d.write_receiveImage r
  | connectWifi => exact .withBody d.write_connectWifi

/-- **What a request can do**, whatever its path, its method and its body are. -/
theorem write_serve (d : Device) (minute : Nat) (r : Request) :
    d.Write (d.serve minute r).2 := by
  rw [serve]
  split
  · exact .nothing
  · next route _ =>
    have hhandle := d.write_handle minute route r
    split
    · split
      · exact hhandle
      · exact hhandle
      · exact .nothing
    · split
      · exact hhandle
      · exact .nothing

/-! ### What stays as it should be -/

/-- **A memory that is in order.** -/
structure Consistent (d : Device) : Prop where
  /-- The manual output is a percentage. -/
  manual : d.manual.pwm ≤ 100
  /-- The mode is one. -/
  mode : d.modeCode = 0 ∨ d.modeCode = 1 ∨ d.modeCode = 2
  /-- A slot lies under its own number, and each of its fields is within its range. -/
  slots : ∀ id s, d.slots.get id = some s → s.id = id ∧ s.InRange
  /-- There is a verdict when there has been an upload, and not before. -/
  verdict : d.verdict = .pending ↔ d.uploads = 0
  /-- There is the name of a network when the device tries to join one, and not before. -/
  network : d.ssid.isSome ↔ d.wifi = .connecting
  /-- Some character of the name can be seen. -/
  shown : ∀ name, d.ssid = some name → ∃ c ∈ name.toList, Text.isBlank c = false

namespace Consistent

/-- A device is in order when it is switched on. -/
theorem initial : Device.initial.Consistent where
  manual := by decide
  mode := .inl rfl
  slots := by
    intro id s hs
    cases id <;> cases hs
  verdict := by decide
  network := by decide
  shown := by
    intro name hname
    cases hname

/-- The number of a mode is one of the three. -/
theorem modeCode_inMode (d : Device) (mode : Mode) :
    (d.inMode mode).modeCode = 0 ∨ (d.inMode mode).modeCode = 1 ∨ (d.inMode mode).modeCode = 2 := by
  cases mode with
  | manual => exact .inl rfl
  | auto => exact .inr (.inl rfl)
  | scheduled => exact .inr (.inr rfl)

/-- Slots stay in order when one of them is replaced by one that is. -/
theorem slots_set (h : d.Consistent) {id : SlotId} {new : Option Slot}
    (hnew : ∀ s, new = some s → s.id = id ∧ s.InRange) (other : SlotId) (s : Slot)
    (hs : (d.slots.set id new).get other = some s) : s.id = other ∧ s.InRange := by
  by_cases hother : other = id
  · subst hother
    rw [SlotTable.get_set_self] at hs
    exact hnew s hs
  · rw [SlotTable.get_set_of_ne _ _ hother] at hs
    exact h.slots other s hs

/-- An image settles the verdict. -/
theorem verdict_received (d : Device) (data : Bytes) :
    (d.received data).verdict = .pending ↔ (d.received data).uploads = 0 := by
  have hverdict : (d.received data).verdict ≠ .pending := by
    rw [received]
    dsimp only
    split <;> decide
  have huploads : (d.received data).uploads ≠ 0 := Nat.succ_ne_zero d.uploads
  exact iff_of_false hverdict huploads

/-- **What a request can do keeps a memory in order.** -/
theorem write (h : d.Consistent) (hwrite : d.Write d') : d'.Consistent := by
  cases hwrite with
  | nothing => exact h
  | manual pwm => exact { h with manual := percent_le pwm, mode := modeCode_inMode _ .manual }
  | auto band => exact { h with mode := modeCode_inMode _ .auto }
  | slot s inRange =>
      refine { h with mode := modeCode_inMode _ .scheduled, slots := h.slots_set ?_ }
      rintro _ ⟨⟩
      exact ⟨rfl, inRange⟩
  | erase id =>
      refine { h with slots := h.slots_set ?_ }
      rintro _ ⟨⟩
  | image data => exact { h with verdict := verdict_received d data }
  | network name shown =>
      refine { h with network := iff_of_true rfl rfl, shown := ?_ }
      rintro _ ⟨⟩
      exact shown

/-- What a memory in order has the device drive is a percentage. -/
theorem outputLevel_le (h : d.Consistent) (minute : Nat) : d.outputLevel minute ≤ 100 :=
  FanControl.outputLevel_le h.manual

end Consistent

/-! ### Any number of requests -/

/-- The memory after requests that arrive one after another, each at its minute of the day. -/
def serveAll (d : Device) : List (Nat × Request) → Device
  | [] => d
  | (minute, r) :: rest => (d.serve minute r).2.serveAll rest

/-- Requests keep a memory in order. -/
theorem Consistent.serveAll (h : d.Consistent) (requests : List (Nat × Request)) :
    (d.serveAll requests).Consistent := by
  induction requests generalizing d with
  | nil => exact h
  | cons request rest ih => exact ih (h.write (d.write_serve request.1 request.2))

/-- **Every memory that can be reached is in order.** Whatever requests a device gets after it has
been switched on, its manual output is a percentage, its mode is one of the three, each slot it
holds lies under its own number and has all its fields in range, it has a verdict just when it has
received an upload, and it has the name of a network, which is not blank, just when it is
connecting. And at every minute of the day it drives at most full output. -/
theorem serveAll_consistent (requests : List (Nat × Request)) :
    (Device.initial.serveAll requests).Consistent ∧
      ∀ minute, (Device.initial.serveAll requests).outputLevel minute ≤ 100 :=
  have h := Consistent.initial.serveAll requests
  ⟨h, h.outputLevel_le⟩

end Device

end FanControl
