import FanControl.Clamp
import FanControl.Firmware.Image
import FanControl.InputError
import FanControl.Json.Printer
import FanControl.Json.Record

/-!
# The life of a firmware update

An update goes from `idle` over `uploading` to `polling`, where the device is asked for its
verdict, and from there either to `failed` or, through the countdown of `rebooting`, to
`succeeded`. A `Lifecycle` is the state of one update without any input or output; each
transition gives the events that are to be shown.

No phase can be passed over: a verdict counts only while polling, and the countdown runs only
while rebooting.
-/

namespace FanControl

open Json

/-- The date and the time at which the running firmware was built. -/
structure FirmwareMeta where
  date : String
  time : String
deriving DecidableEq, Repr

/-- What an operator reads. -/
def FirmwareMeta.text (m : FirmwareMeta) : String := m.date ++ " - " ++ m.time

/-- What the device says about the image that it was sent. -/
inductive Verdict where
  | failed
  | pending
  | complete
deriving DecidableEq, Repr

namespace Verdict

/-- What a number on the wire stands for. -/
def ofCode (code : Int32) : Verdict :=
  if code = 1 then complete
  else if code = -1 then failed
  else pending

/-- The number on the wire. -/
def code : Verdict → Int32
  | failed => -1
  | pending => 0
  | complete => 1

end Verdict

/-- The body in which the device answers a status query. -/
structure VerdictBody where
  code : Int32
  date : String
  time : String
deriving DecidableEq, Repr

namespace VerdictBody

/-- The fields of an answer. -/
def record : Record VerdictBody where
  name := "OtaStatusPayload"
  blank := ⟨0, "", ""⟩
  fields := [
    .required "ota_update_status" .int32 fun v r => { r with code := v },
    .withDefault "compile_date" .string fun v r => { r with date := v },
    .withDefault "compile_time" .string fun v r => { r with time := v }]

/-- How an answer is read. -/
def reader : Reader VerdictBody := record.reader

/-- The body of an answer. -/
def toValue (b : VerdictBody) : Value :=
  .object [("ota_update_status", .integer b.code.toInt), ("compile_date", .string b.date),
    ("compile_time", .string b.time)]

end VerdictBody

/-- The answer to a status query. -/
structure UpdateReport where
  verdict : Verdict
  firmware : FirmwareMeta
deriving DecidableEq, Repr

/-- What the body of an answer says. -/
def VerdictBody.report (b : VerdictBody) : UpdateReport := ⟨.ofCode b.code, ⟨b.date, b.time⟩⟩

/-- How much of an upload has been handed over, and of how much if that is known. -/
structure UploadProgress where
  sent : UInt64
  total : Option UInt64
deriving DecidableEq, Repr

/-- What an update shows or asks for. -/
inductive UpdateEvent where
  | uploading
  | firmwareInfo (firmware : FirmwareMeta)
  | uploadFailed
  | rebooting (remaining : Nat)
  /-- The device is back, and everything shown about it is out of date. -/
  | reload
deriving DecidableEq, Repr

/-- What an operator reads. -/
def UpdateEvent.text : UpdateEvent → String
  | uploading => "Uploading... Firmware Update in Progress..."
  | firmwareInfo firmware => firmware.text
  | uploadFailed => "!!! Upload Error !!!"
  | rebooting remaining => "OTA complete. Rebooting in: " ++ toString remaining
  | reload => "reloading"

/-- Where an update stands. -/
inductive UpdatePhase where
  | idle
  | uploading
  | polling
  | rebooting
  | succeeded
  | failed
deriving DecidableEq, Repr

namespace UpdatePhase

/-- All phases. -/
def all : List UpdatePhase := [idle, uploading, polling, rebooting, succeeded, failed]

/-- The name of a phase. -/
def name : UpdatePhase → String
  | idle => "IDLE"
  | uploading => "UPLOADING"
  | polling => "POLLING"
  | rebooting => "REBOOTING"
  | succeeded => "SUCCEEDED"
  | failed => "FAILED"

/-- Whether a verdict is still awaited. -/
def awaitsVerdict : UpdatePhase → Bool
  | uploading | polling => true
  | _ => false

end UpdatePhase

/-- What upload progress calls for. -/
inductive ProgressAction where
  /-- The device has to be asked for its verdict. -/
  | query
  /-- Nothing, because the size of the upload is not known. -/
  | unknownSize
  /-- Nothing, because no verdict is awaited. -/
  | ignore
deriving DecidableEq, Repr

/-- The state of an update. -/
structure Lifecycle where
  /-- Where the countdown begins. -/
  start : Nat
  phase : UpdatePhase
  countdown : Option Nat
  /-- What the last report that counted said about the running firmware. -/
  firmware : Option FirmwareMeta
  /-- A countdown has at least one step. -/
  start_pos : 0 < start
deriving DecidableEq, Repr

namespace Lifecycle

/-- No update so far. -/
def new (start : Nat) : Lifecycle := ⟨atLeastOne start, .idle, none, none, atLeastOne_pos start⟩

/-- Starts an update with the one image that is selected. -/
def submit (l : Lifecycle) (files : List FirmwareImage) :
    Except InputError (FirmwareImage × List UpdateEvent × Lifecycle) :=
  if l.phase ≠ .idle then .error .updateInProgress
  else
    match files with
    | [image] =>
      .ok (image, [.uploading],
        { l with phase := .uploading, countdown := none, firmware := none })
    | _ => .error .noFileSelected

/-- After progress of the upload. -/
def progress (l : Lifecycle) (p : UploadProgress) : ProgressAction × Lifecycle :=
  if !l.phase.awaitsVerdict then (.ignore, l)
  else if p.total = none then (.unknownSize, l)
  else (.query, { l with phase := .polling })

/-- After the answer to a query. -/
def report (l : Lifecycle) (r : UpdateReport) : List UpdateEvent × Lifecycle :=
  if l.phase ≠ .polling then ([], l)
  else
    let l := { l with firmware := some r.firmware }
    match r.verdict with
    | .failed => ([.firmwareInfo r.firmware, .uploadFailed], { l with phase := .failed })
    | .complete =>
      ([.firmwareInfo r.firmware], { l with phase := .rebooting, countdown := some l.start })
    | .pending => ([.firmwareInfo r.firmware], l)

/-- One step of the countdown: the count is shown and then decreased. The step to zero ends the
update. -/
def tick (l : Lifecycle) : List UpdateEvent × Lifecycle :=
  match l.phase, l.countdown with
  | .rebooting, some remaining =>
    let l := { l with countdown := some (remaining - 1) }
    if remaining ≤ 1 then ([.rebooting remaining, .reload], { l with phase := .succeeded })
    else ([.rebooting remaining], l)
  | _, _ => ([], l)

/-- Outside of the phase `rebooting` a step of the countdown changes nothing. -/
theorem tick_of_ne_rebooting {l : Lifecycle} (h : l.phase ≠ .rebooting) : l.tick = ([], l) := by
  rw [tick.eq_def]
  split
  · next hp _ => exact absurd hp h
  · rfl

/-- After an upload that failed. A verdict that has been received outweighs it. -/
def uploadFailed (l : Lifecycle) : List UpdateEvent × Lifecycle :=
  if l.phase.awaitsVerdict then ([.uploadFailed], { l with phase := .failed }) else ([], l)

/-- Makes the way free for another update, unless the device is rebooting. -/
def reset (l : Lifecycle) : Bool × Lifecycle :=
  if l.phase = .rebooting then (false, l)
  else (true, { l with phase := .idle, countdown := none })

end Lifecycle

end FanControl
