import FanControl.FanLaw
import FanControl.Firmware.Lifecycle
import FanControl.Status
import FanControl.Wifi

/-!
# The simulated device

What a device remembers, and what it reports of it. The simulator stands in for a real device, so
its memory is laid out by what a device can be asked and told; it is lost when the simulator
stops.
-/

namespace FanControl

open FloatingPoint

/-- The memory of a device. -/
structure Device where
  /-- The number of the mode, served as it is even if it stands for no mode. -/
  modeCode : Int64
  manual : ManualSetting
  auto : AutoSetting
  slots : SlotTable
  /-- Absent until the sensor has measured something. -/
  temperature : Option Binary32
  presence : Option Bool
  verdict : Verdict
  firmware : FirmwareMeta
  /-- How many images have been received. -/
  uploads : Nat
  wifi : Wifi.Status
  ssid : Option String
deriving DecidableEq, Repr

namespace Device

/-- A device as it is switched on, in a room of 22 °C with somebody in it. -/
def initial : Device where
  modeCode := 0
  manual := ⟨0⟩
  auto := ⟨20, 30⟩
  slots := .empty
  temperature := some ⟨0x41B00000⟩
  presence := some true
  verdict := .pending
  firmware := ⟨"Oct 14 2026", "09:30:00"⟩
  uploads := 0
  wifi := .idle
  ssid := none

/-- The mode, if the number stands for one. -/
def mode? (d : Device) : Option Mode := Mode.ofCode? d.modeCode

/-- The output at a minute of the day. A temperature that has not been measured counts as zero,
and an unknown presence as nobody. -/
def outputLevel (d : Device) (minute : Nat) : UInt8 :=
  FanControl.outputLevel {
    mode := d.mode?
    temperature := d.temperature.getD .zero
    presence := d.presence.getD false
    minute
    manual := d.manual
    auto := d.auto
    slots := d.slots.toList }

/-- What the device reports at a minute of the day. -/
def statusReport (d : Device) (minute : Nat) : StatusReport where
  temperature := d.temperature
  presence := d.presence.map fun present => .number (if present then 1 else 0)
  mode := some d.modeCode
  output := some (Int64.ofNat (d.outputLevel minute).toNat)

/-- The device in a mode. -/
def inMode (d : Device) (mode : Mode) : Device := { d with modeCode := Int64.ofNat mode.code }

end Device

end FanControl
