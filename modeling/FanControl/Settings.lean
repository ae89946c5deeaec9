import FanControl.Clamp
import FanControl.Json.Printer
import FanControl.Json.Record

/-!
# Manual and automatic settings

The two settings that a panel edits besides the schedule: a fixed output, and the temperature band
of the automatic mode. Of each there is the setting itself, the body in which the device reports
it together with its mode, and the body in which it is sent.
-/

namespace FanControl

open Json

/-- The output of the manual mode. -/
structure ManualSetting where
  /-- Percent of full output. -/
  pwm : UInt8
deriving DecidableEq, Repr

/-- The setting nearest to a number. -/
def ManualSetting.ofInt64 (i : Int64) : ManualSetting := ⟨percent i⟩

/-- The band of the automatic mode: the fan starts at `tmin` and is at its full output from `tmax`
on. Whether the two are in order is the device's concern. -/
structure AutoSetting where
  tmin : Int32
  tmax : Int32
deriving DecidableEq, Repr

namespace AutoSetting

/-- A band of which nothing is known. -/
def zero : AutoSetting := ⟨0, 0⟩

/-- How a band is read. -/
def reader : Reader AutoSetting :=
  Record.reader {
    name := "AutoConfig"
    blank := zero
    fields := [
      .required "tmin" .int32 fun v r => { r with tmin := v },
      .required "tmax" .int32 fun v r => { r with tmax := v }] }

/-- The body that sends a band. -/
def toValue (s : AutoSetting) : Value :=
  .object [("tmin", .integer s.tmin.toInt), ("tmax", .integer s.tmax.toInt)]

end AutoSetting

/-- The body that sends a manual output. -/
structure ManualRequest where
  pwm : Int64
deriving DecidableEq, Repr

namespace ManualRequest

/-- How a request is read. -/
def reader : Reader ManualRequest :=
  Record.reader {
    name := "PwmUpdate"
    blank := ⟨0⟩
    fields := [.required "pwm" .int64 fun v r => { r with pwm := v }] }

/-- The body of a request. -/
def toValue (r : ManualRequest) : Value := .object [("pwm", .integer r.pwm.toInt)]

/-- The request that sends a setting. -/
def ofSetting (s : ManualSetting) : ManualRequest := ⟨Int64.ofNat s.pwm.toNat⟩

end ManualRequest

/-- The body in which the device reports its manual output. -/
structure ManualReport where
  pwm : Option Int64
  mode : Option Int64
deriving DecidableEq, Repr

namespace ManualReport

/-- How a report is read. -/
def reader : Reader ManualReport :=
  Record.reader {
    name := "ManualConfigPayload"
    blank := ⟨none, none⟩
    fields := [
      .optional "manual_pwm" .int64 fun v r => { r with pwm := v },
      .optional "mode" .int64 fun v r => { r with mode := v }] }

/-- The body of a report. -/
def toValue (r : ManualReport) : Value :=
  .object ([
    r.pwm.map fun i => ("manual_pwm", .integer i.toInt),
    r.mode.map fun i => ("mode", .integer i.toInt)].filterMap id)

/-- The setting that a report gives. An output that is left out is zero. -/
def setting (r : ManualReport) : ManualSetting := .ofInt64 (r.pwm.getD 0)

end ManualReport

/-- The body in which the device reports its band. -/
structure AutoReport where
  tmin : Option Int64
  tmax : Option Int64
  mode : Option Int64
deriving DecidableEq, Repr

namespace AutoReport

/-- How a report is read. -/
def reader : Reader AutoReport :=
  Record.reader {
    name := "AutoConfigPayload"
    blank := ⟨none, none, none⟩
    fields := [
      .optional "tmin" .int64 fun v r => { r with tmin := v },
      .optional "tmax" .int64 fun v r => { r with tmax := v },
      .optional "mode" .int64 fun v r => { r with mode := v }] }

/-- The body of a report. -/
def toValue (r : AutoReport) : Value :=
  .object ([
    r.tmin.map fun i => ("tmin", .integer i.toInt),
    r.tmax.map fun i => ("tmax", .integer i.toInt),
    r.mode.map fun i => ("mode", .integer i.toInt)].filterMap id)

/-- The band that a report gives. A bound that is left out stays as it is in `current`. -/
def setting (r : AutoReport) (current : AutoSetting) : AutoSetting where
  tmin := (r.tmin.map clampInt32).getD current.tmin
  tmax := (r.tmax.map clampInt32).getD current.tmax

end AutoReport

end FanControl
