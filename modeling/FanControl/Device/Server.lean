import FanControl.Device.Basic
import FanControl.Http.Form
import FanControl.Http.Message
import FanControl.Http.Query
import FanControl.Route
import FanControl.Text.Digits

/-!
# The device's HTTP side

Each route of the device answers one method. A request is refused, and then nothing is written, or
it is carried out as a whole: whatever can be wrong with a body is looked at before the memory is
touched.

`Device.serve` takes the minute of the day, which is all that an answer depends on besides the
request and the memory.
-/

namespace FanControl

open Json Http

/-- A JSON body is refused beyond this many bytes. -/
def jsonLimit : Nat := 2 * 1024 * 1024

/-- An upload is refused beyond this many bytes. -/
def uploadLimit : Nat := 8 * 1024 * 1024

/-- The name of the form's part that holds a firmware image. -/
def imageField : String := "file"

namespace Device

/-- The answer to a request that was carried out. -/
def accepted : Response := .json 200 (.object [("status", .string "ok")])

/-- The answer to a request that was refused, with the reason. -/
def refused (status : Nat) (reason : String) : Response :=
  .json status (.object [("error", .string reason)])

/-- Reads the JSON body of a request. What the request says about the body is looked at first,
then its size, then the text. -/
def readBody {α : Type} (read : Bytes → Except Json.Error α) (r : Request) : Except Response α :=
  if !((r.contentType.bind MediaType.parse?).any MediaType.isJson) then .error (.bare 415)
  else if jsonLimit < r.body.length then .error (.bare 413)
  else
    match read r.body with
    | .ok a => .ok a
    | .error (.fault _) => .error (.bare 400)
    | .error (.mismatch _) => .error (.bare 422)

/-- The JSON body of a request as a value. -/
def valueBody (r : Request) : Except Response Value :=
  readBody (fun bs => liftFault (Value.ofBytes? bs)) r

/-- The whole number under a key of a body. -/
def wholeNumber? (body : Value) (key : String) : Option Int64 :=
  (body.get? key).bind Value.int64?

/-- Which slot a query asks for. -/
def querySlot? (d : Dialect) (query : String) : Option SlotId := do
  let text ← queryValue? d.selectorKey query
  let n ← Text.int64? (Text.trim text)
  (SlotId.ofNumber n).toOption

/-- Stores a manual output. -/
def setManual (d : Device) (body : Value) : Response × Device :=
  match wholeNumber? body "pwm" with
  | none => (refused 400 "Missing or invalid 'pwm'", d)
  | some pwm => (accepted, { d with manual := .ofInt64 pwm }.inMode .manual)

/-- Stores a band. -/
def setAuto (d : Device) (body : Value) : Response × Device :=
  match wholeNumber? body "tmin", wholeNumber? body "tmax" with
  | some tmin, some tmax =>
    (accepted, { d with auto := ⟨clampInt32 tmin, clampInt32 tmax⟩ }.inMode .auto)
  | _, _ => (refused 400 "Missing or invalid 'tmin'/'tmax'", d)

/-- Gives out a slot. -/
def getSlot (d : Device) (dialect : Dialect) (query : String) : Response :=
  match querySlot? dialect query with
  | none => refused 400 "Invalid slot id"
  | some id =>
    match d.slots.get id with
    | some s => .json 200 (dialect.encodeLoaded s)
    | none => refused 404 "Slot not found"

/-- Stores a slot. -/
def setSlot (d : Device) (dialect : Dialect) (body : Value) : Response × Device :=
  match dialect.decodeSet body with
  | .error e => (refused 400 e.message, d)
  | .ok s => (accepted, { d with slots := d.slots.put s }.inMode .scheduled)

/-- Forgets a slot. -/
def eraseSlot (d : Device) (dialect : Dialect) (body : Value) : Response × Device :=
  match dialect.decodeSelector body with
  | .error e => (refused 400 e.message, d)
  | .ok id => (accepted, { d with slots := d.slots.set id none })

/-- The device after it has received the bytes of an image. Without any the image is a failure. -/
def received (d : Device) (data : Bytes) : Device :=
  { d with verdict := if data.isEmpty then .failed else .complete, uploads := d.uploads + 1 }

/-- Receives a firmware image. Of several parts with the image's name the last one counts, and a
form without any is as good as an image without bytes. -/
def receiveImage (d : Device) (r : Request) : Response × Device :=
  match (r.contentType.bind MediaType.parse?).bind MediaType.formBoundary? with
  | none => (.bare 400, d)
  | some boundary =>
    if uploadLimit < r.body.length then (refused 400 "Request payload is too large", d)
    else
      match parseForm boundary r.body with
      | (_, some fault) => (refused 400 fault.message, d)
      | (parts, none) =>
        let images := parts.filter fun p => p.name == some imageField
        let data := match images.getLast? with
          | some p => p.data
          | none => []
        (accepted, d.received data)

/-- Takes credentials. -/
def connectWifi (d : Device) (c : Wifi.Credentials) : Response × Device :=
  if Text.trim c.ssid = "" then (refused 400 "Missing 'selectedSSID'", d)
  else (accepted, { d with ssid := some c.ssid, wifi := .connecting })

/-- A step of the memory that a body may prevent. -/
def withBody {α : Type} (d : Device) (body : Except Response α)
    (store : α → Response × Device) : Response × Device :=
  match body with
  | .error response => (response, d)
  | .ok a => store a

/-- The answer of a route, and the memory after it. -/
def handle (d : Device) (minute : Nat) (route : Route) (r : Request) : Response × Device :=
  match route with
  | .status => (.json 200 (d.statusReport minute).toValue, d)
  | .manual =>
    let report : ManualReport := ⟨some (Int64.ofNat d.manual.pwm.toNat), some d.modeCode⟩
    (.json 200 report.toValue, d)
  | .setManual => d.withBody (valueBody r) d.setManual
  | .auto =>
    let report : AutoReport :=
      ⟨some (Int64.ofInt d.auto.tmin.toInt), some (Int64.ofInt d.auto.tmax.toInt), some d.modeCode⟩
    (.json 200 report.toValue, d)
  | .setAuto => d.withBody (valueBody r) d.setAuto
  | .slot dialect => (d.getSlot dialect r.query, d)
  | .setSlot dialect => d.withBody (valueBody r) (d.setSlot dialect)
  | .eraseSlot dialect => d.withBody (valueBody r) (d.eraseSlot dialect)
  | .upload => d.receiveImage r
  | .verdict =>
    let body : VerdictBody := ⟨d.verdict.code, d.firmware.date, d.firmware.time⟩
    (.json 200 body.toValue, d)
  | .connectWifi => d.withBody (readBody Wifi.Credentials.reader.ofBytes r) d.connectWifi
  | .wifiStatus => (.json 200 (Wifi.StatusReport.mk d.wifi.code).toValue, d)

/-- The answer to a request at a minute of the day, and the memory after it. What is only given
out may also be asked for without its body. -/
def serve (d : Device) (minute : Nat) (r : Request) : Response × Device :=
  match Route.ofPath? r.path with
  | none => (.bare 404, d)
  | some route =>
    if route.isRead then
      match r.method with
      | .get => d.handle minute route r
      | .head =>
        let (response, d) := d.handle minute route r
        ({ response with body := [] }, d)
      | _ => (.bare 405, d)
    else if r.method = .post then d.handle minute route r
    else (.bare 405, d)

end Device

end FanControl
