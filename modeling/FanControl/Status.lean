import FanControl.Clamp
import FanControl.Json.Printer
import FanControl.Json.Record
import FanControl.Mode

/-!
# Device status

A `StatusReport` is the body that the device answers a status request with; it leaves out what its
sensors have not measured yet. `Status.ofReport` is what a client makes of it: a temperature that
is no finite number counts as absent, presence is a truth value whichever way it was written, and
the output is a percentage.
-/

namespace FanControl

open FloatingPoint Json

/-- A truth value, written as a literal or as a number that is zero or not. -/
inductive Flag where
  | literal (b : Bool)
  | number (i : Int64)
deriving DecidableEq, Repr

namespace Flag

/-- The truth value meant. -/
def isSet : Flag → Bool
  | literal b => b
  | number i => i != 0

/-- A literal is tried first; everything that is neither is refused as a whole. -/
def reader : Reader Flag :=
  .firstOf "Flag" [
    fun
      | .boolean b => some (literal b)
      | _ => none,
    fun v => v.int64?.map number]

/-- The flag in the form that it has. -/
def toValue : Flag → Value
  | literal b => .boolean b
  | number i => .integer i.toInt

end Flag

/-- The body of a status answer. -/
structure StatusReport where
  temperature : Option Binary32
  presence : Option Flag
  mode : Option Int64
  output : Option Int64
deriving DecidableEq, Repr

namespace StatusReport

/-- A report that says nothing. -/
def empty : StatusReport := ⟨none, none, none, none⟩

/-- How a report is read. -/
def reader : Reader StatusReport :=
  Record.reader {
    name := "StatusPayload"
    blank := empty
    fields := [
      .optional "temp" .single fun v r => { r with temperature := v },
      .optional "pir" Flag.reader fun v r => { r with presence := v },
      .optional "mode" .int64 fun v r => { r with mode := v },
      .optional "pwm" .int64 fun v r => { r with output := v }] }

/-- The body of a report. -/
def toValue (r : StatusReport) : Value :=
  .object ([
    r.temperature.map fun x => ("temp", .number (.single x)),
    r.presence.map fun flag => ("pir", flag.toValue),
    r.mode.map fun code => ("mode", .integer code.toInt),
    r.output.map fun level => ("pwm", .integer level.toInt)].filterMap id)

end StatusReport

/-- What is known of the device at one moment. -/
structure Status where
  /-- Degrees Celsius, a finite number if it comes from a report. -/
  temperature : Option Binary32
  presence : Option Bool
  mode : Option ReportedMode
  /-- Percent of full output. -/
  output : Option UInt8
deriving DecidableEq, Repr

namespace Status

/-- A status without anything in it. -/
def empty : Status := ⟨none, none, none, none⟩

/-- What a report means. -/
def ofReport (r : StatusReport) : Status where
  temperature := r.temperature.filter Binary32.isFinite
  presence := r.presence.map Flag.isSet
  mode := r.mode.map ReportedMode.ofCode
  output := r.output.map percent

end Status

end FanControl
