import FanControl.Session.Client
import FanControl.Session.UpdateRun

/-!
# An update of a simulated device

Both sides of a firmware update together: the run of the client, and the device with the messages
between the two. The device reads the form that holds the image and decides on it in one moment,
with however much of the form it has got by then. It answers a query for the verdict from what it
remembers in another such moment. Either may come at any point of the client's run, and either
response may be lost on its way.

An exchange keeps from which memory each answer came that has got through. The client never looks
at it; it is there to say afterwards what an update was decided by.

## Main definitions

* `UploadTask`: what does not change during an update;
* `ExchangeMove`, `Exchange`: what can happen next, and where both sides stand;
* `Exchange.move?`, `Exchange.run`: one move, and a list of them.
-/

namespace FanControl

open Http

/-- What does not change during an update. -/
structure UploadTask where
  client : Client
  image : FirmwareImage
  /-- The boundary of the form that holds the image. -/
  boundary : String
  /-- The time between two steps of the countdown. -/
  period : Nat

/-- What can happen next to the two sides. -/
inductive ExchangeMove where
  /-- The client makes a move that needs nothing from the device. -/
  | client (move : UpdateMove)
  /-- The device is done with the upload, after so many bytes of the form. -/
  | receive (minute bytes : Nat)
  /-- The response to the upload gets through. -/
  | finish
  /-- The upload request ends without a response. -/
  | breakOff
  /-- The device answers the query. -/
  | handle (minute : Nat)
  /-- The answer to the query gets through. -/
  | answer
  /-- The query ends without an answer. -/
  | miss

/-- The two sides of an update. -/
structure Exchange where
  update : UpdateRun
  device : Device
  /-- The response to the upload, once the device is done with it. -/
  response : Option Response
  /-- The response to the query that is being made, with the memory that it comes from. -/
  reply : Option (Device × Response)
  /-- The memories that the answers came from which have got through. -/
  consulted : List Device

namespace Exchange

/-- An update of a device that is asked for, of which the first `chunks` chunks will be handed
over. -/
def start (u : UploadTask) (now : Nat) (l : Lifecycle) (chunks : Nat) (d : Device) : Exchange :=
  ⟨.start now l [u.image] ((Client.imageProgress u.image).take chunks), d, none, none, []⟩

/-- The request that uploads the image, with so many bytes of its form. -/
def uploadRequest (u : UploadTask) (bytes : Nat) : Request :=
  let request := Client.uploadRequestWithin u.boundary u.image
  { request with body := request.body.take bytes }

/-- Lets the client make a move. -/
def advance? (u : UploadTask) (x : Exchange) (m : UpdateMove) : Option Exchange :=
  (x.update.move? u.period m).map fun update => { x with update }

/-- The exchange after a move, if it can be made. -/
def move? (u : UploadTask) (x : Exchange) : ExchangeMove → Option Exchange
  | .client m =>
    match m with
    | .finish _ | .answer _ => none
    | m => x.advance? u m
  | .receive minute bytes =>
    match x.response with
    | some _ => none
    | none =>
      let (response, device) := x.device.serve minute (uploadRequest u bytes)
      some { x with response, device }
  | .finish =>
    x.response.bind fun r => x.advance? u (.finish (Client.accepted Route.upload.path r))
  | .breakOff => x.advance? u (.finish (.error (.unanswered Route.upload.path)))
  | .handle minute =>
    match x.update.turn, x.reply with
    | .query _, none =>
      let (response, device) := x.device.serve minute (u.client.request .queryVerdict)
      some { x with reply := some (x.device, response), device }
    | _, _ => none
  | .answer =>
    x.reply.bind fun (d, r) =>
      { x with reply := none, consulted := x.consulted ++ [d] }.advance? u
        (.answer (u.client.interpret .queryVerdict r))
  | .miss =>
    { x with reply := none }.advance? u
      (.answer (.error (.unanswered (Call.queryVerdict.target u.client.dialect))))

/-- The exchange after some moves, if they can be made in this order. -/
def run (u : UploadTask) (x : Exchange) : List ExchangeMove → Option Exchange
  | [] => some x
  | m :: moves => (x.move? u m).bind fun x => x.run u moves

end Exchange

end FanControl
