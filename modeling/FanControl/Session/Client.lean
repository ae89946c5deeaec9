import FanControl.Device.Server
import FanControl.Session.Timeline

/-!
# A device over HTTP

A client turns a call into a request and a response into an answer. What carries the request is a
`Link`; on a link to a simulated device the whole path from the operator's form to the device's
memory and back is a function.

An image is uploaded as the one part of a form, in chunks, each of which is reported when it is
handed over.

## Main definitions

* `Client.request`, `Client.interpret`: a call as a request, a response as an answer;
* `Client.model`: a device at the other end of a link.
-/

namespace FanControl

open Http Json

/-- Carries a request to where `σ` is the memory, and brings back the response, if there is one. -/
def Link (σ : Type) : Type := Request → σ → Option Response × σ

/-- A link on which nothing answers. -/
def Link.dead {σ : Type} : Link σ := fun _ s => (none, s)

/-- A link to a simulated device at a minute of the day. -/
def Device.link (minute : Nat) : Link Device := fun r d =>
  let (response, d) := d.serve minute r
  (some response, d)

/-- Where the device is and how it is spoken to. -/
structure Client where
  baseUrl : String
  dialect : Dialect
deriving DecidableEq, Repr

namespace Client

/-- The client that a configuration describes. -/
def ofConfiguration (c : Configuration) : Client := ⟨Text.trimSlashes c.deviceUrl, c.dialect⟩

/-! ### Requests -/

/-- A request without a body. -/
def getRequest (path query : String) : Request := ⟨.get, path, query, none, []⟩

/-- A request with a JSON body. -/
def postRequest (path : String) (v : Value) : Request :=
  ⟨.post, path, "", some "application/json", Text.bytes v.render⟩

/-- The text by which a device is asked for its verdict. -/
def verdictQuery : String := "ota_update_status"

/-- The request that makes a call. -/
def request (client : Client) (c : Call) : Request :=
  let path := (c.route client.dialect).path
  match c with
  | .loadManual | .loadAuto | .loadSlot _ | .wifiStatus => getRequest path (c.query client.dialect)
  | .saveManual setting => postRequest path (ManualRequest.ofSetting setting).toValue
  | .saveAuto setting => postRequest path setting.toValue
  | .saveSlot slot => postRequest path (client.dialect.encodeSet slot)
  | .eraseSlot id => postRequest path (client.dialect.encodeErase id)
  | .queryVerdict => ⟨.post, path, "", none, Text.bytes verdictQuery⟩
  | .connectWifi credentials => postRequest path credentials.toValue

/-! ### Responses -/

/-- A response that says that the request was carried out. -/
def accepted (target : String) (r : Response) : Except Failure Unit :=
  if r.isSuccess then .ok () else .error (.refused target r.status)

/-- The body of a response. -/
def readJson {α : Type} (target : String) (reader : Reader α) (r : Response) :
    Except Failure α := do
  accepted target r
  (reader.ofBytes r.body).mapError (.unreadable target)

/-- The answer to a call. -/
def interpret (client : Client) : (c : Call) → Response → Except Failure c.Answer
  | .loadManual, r => readJson (Call.loadManual.target client.dialect) ManualReport.reader r
  | .loadAuto, r => readJson (Call.loadAuto.target client.dialect) AutoReport.reader r
  | .loadSlot id, r =>
    if r.status = 404 then .error (.noSlot id)
    else do
      accepted ((Call.loadSlot id).target client.dialect) r
      (Dialect.decodeLoaded id r.body).mapError .unreadableSlot
  | .queryVerdict, r =>
    (readJson (Call.queryVerdict.target client.dialect) VerdictBody.reader r).map
      VerdictBody.report
  | .wifiStatus, r =>
    (readJson (Call.wifiStatus.target client.dialect) Wifi.StatusReport.reader r).map
      fun report => .ofCode report.code
  | .saveManual setting, r => accepted ((Call.saveManual setting).target client.dialect) r
  | .saveAuto setting, r => accepted ((Call.saveAuto setting).target client.dialect) r
  | .saveSlot slot, r => accepted ((Call.saveSlot slot).target client.dialect) r
  | .eraseSlot id, r => accepted ((Call.eraseSlot id).target client.dialect) r
  | .connectWifi credentials, r =>
    accepted ((Call.connectWifi credentials).target client.dialect) r

/-! ### Uploads -/

/-- The size of a chunk. -/
def chunkSize : Nat := 4096

/-- Bytes in chunks of a size, of which there are at most `n`. -/
def chunksOf (size : Nat) : Nat → Bytes → List Bytes
  | 0, _ => []
  | n + 1, bs =>
    if bs.isEmpty then [] else bs.take size :: chunksOf size n (bs.drop size)

/-- The chunks of an image. -/
def imageChunks (image : FirmwareImage) : List Bytes :=
  chunksOf chunkSize image.size image.bytes

/-- What is reported of chunks when `sent` bytes of `total` have been handed over before. -/
def progressOf (total sent : Nat) : List Bytes → List UploadProgress
  | [] => []
  | chunk :: rest =>
    let sent := sent + chunk.length
    ⟨UInt64.ofNat sent, some (UInt64.ofNat total)⟩ :: progressOf total sent rest

/-- What is reported of an image that is uploaded as a whole. -/
def imageProgress (image : FirmwareImage) : List UploadProgress :=
  progressOf image.size 0 (imageChunks image)

/-- The form that holds an image. -/
def imageForm (image : FirmwareImage) : List Part :=
  [⟨some imageField, some image.name, some "application/octet-stream", image.bytes⟩]

/-- The request that uploads an image, in a form with a boundary of its own. -/
def uploadRequestWithin (boundary : String) (image : FirmwareImage) : Request where
  method := .post
  path := Route.upload.path
  query := ""
  contentType := some ("multipart/form-data; boundary=" ++ boundary)
  body := encodeForm boundary (imageForm image) true

/-- The boundary that is chosen as a rule. -/
def boundary : String := "--------fan-control-firmware-image"

/-- The request that uploads an image. -/
def uploadRequest (image : FirmwareImage) : Request := uploadRequestWithin boundary image

/-! ### Devices -/

variable {σ : Type}

/-- Asks for the status. -/
def fetch (link : Link σ) (s : σ) : Except Failure Status × σ :=
  let path := Route.status.path
  match link (getRequest path "") s with
  | (none, s) => (.error (.unanswered path), s)
  | (some r, s) => ((readJson path StatusReport.reader r).map Status.ofReport, s)

/-- Makes a call. -/
def call (client : Client) (link : Link σ) (c : Call) (s : σ) : Except Failure c.Answer × σ :=
  match link (client.request c) s with
  | (none, s) => (.error (.unanswered (c.target client.dialect)), s)
  | (some r, s) => (client.interpret c r, s)

/-- Uploads an image. If nothing answers, nothing has been handed over. -/
def upload (link : Link σ) (image : FirmwareImage) (s : σ) :
    List UploadProgress × Except Failure Unit × σ :=
  let path := Route.upload.path
  match link (uploadRequest image) s with
  | (none, s) => ([], .error (.unanswered path), s)
  | (some r, s) => (imageProgress image, accepted path r, s)

/-- A device at the other end of a link, which answers at once. -/
def model (client : Client) (link : Link σ) : DeviceModel σ where
  fetch s :=
    let (answer, s) := fetch link s
    (⟨0, answer⟩, s)
  call c s :=
    let (answer, s) := client.call link c s
    (⟨0, answer⟩, s)
  upload image s :=
    let (progress, outcome, s) := upload link image s
    (⟨progress.map fun p => ⟨0, p⟩, 0, outcome⟩, s)

end Client

end FanControl
