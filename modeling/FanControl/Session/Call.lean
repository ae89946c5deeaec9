import FanControl.Firmware.Lifecycle
import FanControl.Http.Message
import FanControl.Route
import FanControl.Settings
import FanControl.Status
import FanControl.Wifi

/-!
# Calls to a device

All that a session asks of a device besides its status and the upload of an image. A `Call` says
what is asked, `Call.Answer` of which type the answer is, and `Failure` what can go wrong on the
way. None of the failures ends a session.
-/

namespace FanControl

/-- Why an operation of a session fails. -/
inductive Failure where
  /-- The device did not answer. -/
  | unanswered (path : String)
  /-- The device refused the request. -/
  | refused (path : String) (status : Nat)
  /-- The device's answer cannot be read. -/
  | unreadable (path : String) (cause : Json.Error)
  /-- The device's answer about a slot cannot be read. -/
  | unreadableSlot (cause : SlotError)
  /-- Nothing was sent, because of what the operator put in. -/
  | input (cause : InputError)
  /-- The device answered that it could not do it. -/
  | device (message : String)
  /-- There is no such slot on the device. -/
  | noSlot (id : SlotId)
deriving DecidableEq, Repr

namespace Failure

/-- The wording of a failure. -/
def message : Failure → String
  | unanswered path => "request to " ++ path ++ " failed"
  | refused path status => path ++ " answered HTTP " ++ Http.statusText status
  | unreadable path (.mismatch m) => path ++ " returned a malformed body: " ++ m.message
  | unreadable path (.fault .ended) =>
    path ++ " returned a malformed body: the text ends too early"
  | unreadable path (.fault .malformed) =>
    path ++ " returned a malformed body: the text is not JSON"
  | unreadableSlot cause => cause.message
  | input cause => cause.message
  | device message => "device reported failure: " ++ message
  | noSlot id => "schedule slot " ++ toString id.number ++ " does not exist"

/-- Whether a slot is missing. -/
def isNotFound : Failure → Bool
  | noSlot _ => true
  | _ => false

/-- Whether the operator's input is to blame. -/
def isInput : Failure → Bool
  | input _ => true
  | _ => false

end Failure

/-- What a session asks of a device. -/
inductive Call where
  | loadManual
  | saveManual (setting : ManualSetting)
  | loadAuto
  | saveAuto (setting : AutoSetting)
  | loadSlot (id : SlotId)
  | saveSlot (slot : Slot)
  | eraseSlot (id : SlotId)
  | queryVerdict
  | connectWifi (credentials : Wifi.Credentials)
  | wifiStatus
deriving DecidableEq, Repr

namespace Call

/-- What the device answers. -/
def Answer : Call → Type
  | loadManual => ManualReport
  | loadAuto => AutoReport
  | loadSlot _ => Slot
  | queryVerdict => UpdateReport
  | wifiStatus => Wifi.Status
  | saveManual _ | saveAuto _ | saveSlot _ | eraseSlot _ | connectWifi _ => Unit

/-- Whether the call may change what the device remembers. -/
def isWrite : Call → Bool
  | saveManual _ | saveAuto _ | saveSlot _ | eraseSlot _ | connectWifi _ => true
  | loadManual | loadAuto | loadSlot _ | queryVerdict | wifiStatus => false

/-- The route that the call takes. -/
def route (dialect : Dialect) : Call → Route
  | loadManual => .manual
  | saveManual _ => .setManual
  | loadAuto => .auto
  | saveAuto _ => .setAuto
  | loadSlot _ => .slot dialect
  | saveSlot _ => .setSlot dialect
  | eraseSlot _ => .eraseSlot dialect
  | queryVerdict => .verdict
  | connectWifi _ => .connectWifi
  | wifiStatus => .wifiStatus

/-- What the query says of the call. -/
def query (dialect : Dialect) : Call → String
  | loadSlot id => dialect.selectorKey ++ "=" ++ toString id.number
  | _ => ""

/-- The path of the call with its query. -/
def target (dialect : Dialect) (c : Call) : String :=
  match c with
  | loadSlot id => dialect.loadPathOf id
  | c => (c.route dialect).path

end Call

end FanControl
