import FanControl.FloatingPoint.Binary32
import FanControl.Mode
import FanControl.Schedule.Slot
import FanControl.Settings

/-!
# The fan law

What output the device drives. In manual mode it is the set one. In the other two it is zero while
nobody is present; otherwise it rises linearly with the temperature, in automatic mode over the
band, in scheduled mode over the temperatures of the first slot that is open.
-/

namespace FanControl

open FloatingPoint

/-- The output on a rise from 0 at `low` to 100 at `high`, in single-precision arithmetic. A band
that is empty or upside down always gives 100. -/
def ramp (temperature : Binary32) (low high : Int32) : UInt8 :=
  let t := temperature.decode
  let l := Datum.ofInt .single low.toInt
  let h := Datum.ofInt .single high.toInt
  if high ≤ low then 100
  else if t.le l then 0
  else if h.le t then 100
  else (((t.sub l).mul (.ofInt .single 100)).div (h.sub l)).toByte

/-- What the law looks at. -/
structure FanInputs where
  mode : Option Mode
  temperature : Binary32
  presence : Bool
  minute : Nat
  manual : ManualSetting
  auto : AutoSetting
  slots : List Slot

/-- The output that the device drives, in percent. -/
def outputLevel (i : FanInputs) : UInt8 :=
  match i.mode with
  | some .manual => i.manual.pwm
  | some .auto => if i.presence then ramp i.temperature i.auto.tmin i.auto.tmax else 0
  | some .scheduled =>
    if i.presence then
      match i.slots.find? fun s => s.isOpen i.minute with
      | some s =>
        ramp i.temperature (Int32.ofNat s.outputAt0.toNat) (Int32.ofNat s.outputAt100.toNat)
      | none => 0
    else 0
  | none => 0

end FanControl
