import FanControl.Session.Timeline

/-!
# A device that answers from a script

For each topic a script holds a queue of answers. An answer is used up by the call that gets it,
except for the last one, which is given again and again; with no answer at all the device says
what a device that knows nothing says. An answer is the body that a real device would send, so it
may turn out to be unreadable.
-/

namespace FanControl

open Json

/-- What a scripted device is asked about. -/
inductive Topic where
  | status
  | loadManual
  | saveManual
  | loadAuto
  | saveAuto
  | loadSlot
  | saveSlot
  | eraseSlot
  | verdict
  | connectWifi
  | wifiStatus
deriving DecidableEq, Repr

/-- All topics. -/
def Topic.all : List Topic := [
  .status, .loadManual, .saveManual, .loadAuto, .saveAuto, .loadSlot, .saveSlot, .eraseSlot,
  .verdict, .connectWifi, .wifiStatus]

/-- The topic of a call. -/
def Call.topic : Call → Topic
  | loadManual => .loadManual
  | saveManual _ => .saveManual
  | loadAuto => .loadAuto
  | saveAuto _ => .saveAuto
  | loadSlot _ => .loadSlot
  | saveSlot _ => .saveSlot
  | eraseSlot _ => .eraseSlot
  | queryVerdict => .verdict
  | connectWifi _ => .connectWifi
  | wifiStatus => .wifiStatus

/-- What a scripted device answers. -/
inductive Canned where
  /-- A body, or what a device says that knows nothing. -/
  | body (v : Option Value)
  /-- A refusal. -/
  | refusal (status : Nat)

/-- A scripted answer, and how long it takes. -/
structure CannedReply where
  delay : Nat
  content : Canned

/-- The answers that are left. -/
structure Script where
  dialect : Dialect
  replies : Topic → List CannedReply
  uploads : List UploadPlan

namespace Script

/-- Nothing to say. -/
def empty (dialect : Dialect) : Script := ⟨dialect, fun _ => [], []⟩

/-- The front of a queue, which stays if it is the last. -/
def pop {α : Type} : List α → Option α × List α
  | [] => (none, [])
  | [a] => (some a, [a])
  | a :: rest => (some a, rest)

/-- The next answer on a topic. -/
def next (s : Script) (topic : Topic) : CannedReply × Script :=
  let (front, rest) := pop (s.replies topic)
  (front.getD ⟨0, .body none⟩,
    { s with replies := fun t => if t = topic then rest else s.replies t })

/-- Reads a body that came from a path. -/
def readBody {α : Type} (path : String) (r : Reader α) (v : Value) : Except Failure α :=
  (r.value v).mapError (.unreadable path)

/-- A body without members. -/
def nothing : Value := .object []

/-- What the body of an answer to a call says. -/
def interpret (dialect : Dialect) : (c : Call) → Option Value → Except Failure c.Answer
  | .loadManual, v => readBody (Call.loadManual.target dialect) ManualReport.reader (v.getD nothing)
  | .loadAuto, v => readBody (Call.loadAuto.target dialect) AutoReport.reader (v.getD nothing)
  | .loadSlot id, none => .error (.noSlot id)
  | .loadSlot id, some v =>
    (Dialect.decodeLoaded id (Text.bytes v.render)).mapError .unreadableSlot
  | .queryVerdict, v =>
    (readBody (Call.queryVerdict.target dialect) VerdictBody.reader
      (v.getD (.object [("ota_update_status", .integer 0)]))).map VerdictBody.report
  | .wifiStatus, v =>
    (readBody (Call.wifiStatus.target dialect) Wifi.StatusReport.reader
      (v.getD (.object [("wifi_connect_status", .integer 0)]))).map fun r => .ofCode r.code
  | .saveManual _, _ | .saveAuto _, _ | .saveSlot _, _ | .eraseSlot _, _ | .connectWifi _, _ =>
    .ok ()

/-- The answer to a call. -/
def call (c : Call) (s : Script) : Reply c.Answer × Script :=
  let (reply, s) := s.next c.topic
  let answer := match reply.content with
    | .body v => interpret s.dialect c v
    | .refusal status => .error (.refused (c.target s.dialect) status)
  (⟨reply.delay, answer⟩, s)

/-- The answer to a status request. -/
def fetch (s : Script) : Reply Status × Script :=
  let (reply, s) := s.next .status
  let path := Route.status.path
  let answer := match reply.content with
    | .body v => (readBody path StatusReport.reader (v.getD nothing)).map Status.ofReport
    | .refusal status => .error (.refused path status)
  (⟨reply.delay, answer⟩, s)

/-- How an upload goes. -/
def upload (_ : FirmwareImage) (s : Script) : UploadPlan × Script :=
  let (plan, rest) := pop s.uploads
  (plan.getD ⟨[], 0, .ok ()⟩, { s with uploads := rest })

/-- A device that answers from a script. -/
def model : DeviceModel Script := ⟨fetch, call, upload⟩

end Script

end FanControl
