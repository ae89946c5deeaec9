import FanControl.Session.Operations

/-!
# Sessions in time

A session, a device and a clock. The clock counts milliseconds and moves only while something is
waited for; whatever is done takes no time. A `DeviceModel` says what a device answers and after
how long, so that the same session can run against a script or against a simulated device.

Three activities share the time: the operation at hand, the poll loop, and the reading of the
published status by the dashboard. At one moment the operation goes first, then the poll loop
until it waits, and then the dashboard catches up. An answer that takes no time is no wait, and
nothing else happens before it.

## Main definitions

* `Timeline.perform`: runs an operation to its end;
* `Timeline.advance`: lets time pass;
* `Timeline.settle`: everything due by now has happened.
-/

namespace FanControl

/-- An answer of a device, and how long it takes. -/
structure Reply (α : Type) where
  delay : Nat
  answer : Except Failure α

/-- A report of progress, and the wait before it. -/
structure Chunk where
  delay : Nat
  progress : UploadProgress
deriving DecidableEq, Repr

/-- How the upload of an image goes: its reports of progress, a last wait, and the outcome. -/
structure UploadPlan where
  chunks : List Chunk
  delay : Nat
  outcome : Except Failure Unit

/-- How a device with memory `σ` behaves. -/
structure DeviceModel (σ : Type) where
  fetch : σ → Reply Status × σ
  call : (c : Call) → σ → Reply c.Answer × σ
  upload : FirmwareImage → σ → UploadPlan × σ

/-- What an operation sent. -/
inductive Sent where
  | call (c : Call)
  | upload (image : FirmwareImage)
deriving DecidableEq, Repr

/-- An upload that is under way. -/
structure Upload where
  chunks : List Chunk
  /-- When the current wait is over. -/
  deadline : Nat
  /-- The last wait. -/
  delay : Nat
  outcome : Except Failure Unit
  /-- The newest progress that has not been looked at. -/
  unread : Option UploadProgress

namespace Upload

/-- The wait before the first of some chunks, or the last wait. -/
def nextDelay (delay : Nat) : List Chunk → Nat
  | [] => delay
  | c :: _ => c.delay

/-- An upload that begins now. -/
def start (plan : UploadPlan) (now : Nat) : Upload :=
  ⟨plan.chunks, now + nextDelay plan.delay plan.chunks, plan.delay, plan.outcome, none⟩

/-- What is left to do of the chunks when the current wait is over at `deadline`, once every one
that is due has been sent; a wait begins when the chunk before it is sent. -/
def send (now delay deadline : Nat) (unread : Option UploadProgress) :
    List Chunk → List Chunk × Nat × Option UploadProgress
  | [] => ([], deadline, unread)
  | c :: rest =>
    if deadline ≤ now then send now delay (now + nextDelay delay rest) (some c.progress) rest
    else (c :: rest, deadline, unread)

/-- The upload after everything that is due has been sent. -/
def advance (u : Upload) (now : Nat) : Upload :=
  let (chunks, deadline, unread) := send now u.delay u.deadline u.unread u.chunks
  { u with chunks, deadline, unread }

/-- Whether the upload is over. -/
def isOver (u : Upload) (now : Nat) : Bool := u.chunks.isEmpty && decide (u.deadline ≤ now)

end Upload

/-- A session, its device and the clock. -/
structure Timeline (σ : Type) where
  /-- Milliseconds since the beginning. -/
  now : Nat
  device : σ
  session : Session
  /-- What operations have sent, the last first. -/
  sent : List Sent

namespace Timeline

variable {σ : Type} (D : DeviceModel σ)

/-- The time from one step of a countdown to the next. -/
def tickPeriod (w : Timeline σ) : Nat := w.session.configuration.tickMs.toNat

/-- Changes the session. -/
def mapSession (f : Session → Session) (w : Timeline σ) : Timeline σ :=
  { w with session := f w.session }

/-- The state of the poll loop. -/
def setLoop (loop : PollLoop Failure) (w : Timeline σ) : Timeline σ :=
  w.mapSession fun s => { s with poller := { s.poller with loop := some loop } }

/-! ### Polling -/

/-- One step of the poll loop, unless it waits. -/
def pollStep (w : Timeline σ) : Timeline σ :=
  match w.session.poller.loop with
  | none => w
  | some (.starting period) => w.setLoop (.waiting (.start period w.now))
  | some (.waiting ticker) =>
    if w.now < ticker.due then w
    else
      let (reply, device) := D.fetch w.device
      let ticker := ticker.fire w.now
      let w := { w with device }.mapSession fun s => { s with poller := s.poller.countFetch }
      if reply.delay = 0 then (w.setLoop (.waiting ticker)).mapSession (·.deliver reply.answer)
      else w.setLoop (.fetching ticker (w.now + reply.delay) reply.answer)
  | some (.fetching ticker arrival answer) =>
    if w.now < arrival then w
    else (w.setLoop (.waiting ticker)).mapSession (·.deliver answer)

/-- Some steps of the poll loop. -/
def pollSteps : Nat → Timeline σ → Timeline σ
  | 0, w => w
  | n + 1, w => pollSteps n (pollStep D w)

/-- The poll loop runs until it waits, and then the dashboard catches up. At one moment there are
at most one start, one answer, and requests for the moments within the ticker's grace. -/
def poll (w : Timeline σ) : Timeline σ :=
  (pollSteps D (Ticker.grace + 4) w).mapSession Session.reconcile

/-- Lets everything happen that falls due before a time, in `n` rounds at most. -/
def background (time : Nat) : Nat → Timeline σ → Timeline σ
  | 0, w => w
  | n + 1, w =>
    match w.session.poller.loop with
    | none => w
    | some loop =>
      let wake := loop.wake w.now
      if wake < time then background time n (poll D { w with now := max w.now wake }) else w

/-- Waits until a time. What falls due at that time comes after what was waiting. -/
def sleepUntil (time : Nat) (w : Timeline σ) : Timeline σ :=
  { background D time (time + 1 - w.now) w with now := time }

/-- Waits for some time, if any. -/
def sleep (delay : Nat) (w : Timeline σ) : Timeline σ :=
  if delay = 0 then w else sleepUntil D (w.now + delay) w

/-- Lets everything happen that is due by now. -/
def settle (w : Timeline σ) : Timeline σ := background D (w.now + 1) 2 w

/-- Lets time pass. -/
def advance (delay : Nat) (w : Timeline σ) : Timeline σ :=
  settle D (sleepUntil D (w.now + delay) w)

/-! ### Calls -/

/-- Makes a call and waits for the answer. -/
def call (c : Call) (w : Timeline σ) : Timeline σ × Except Failure c.Answer :=
  let (reply, device) := D.call c w.device
  (sleep D reply.delay { w with device, sent := .call c :: w.sent }, reply.answer)

/-! ### Firmware updates -/

/-- An update that is under way. -/
structure Updating where
  loop : UpdateLoop Failure
  upload : Upload
  /-- When the countdown falls due next, while it is running. -/
  tick : Option Nat

/-- Sends everything that is due by now, unless the upload is over. -/
def Updating.catchUp (u : Updating) (now : Nat) : Updating :=
  if u.loop.ended then u else { u with upload := u.upload.advance now }

/-- What the loop of an update finds ready now: the end of the upload, or else unread progress,
or else the end of all progress, or else the countdown. -/
def Updating.stimulus? (u : Updating) (now : Nat) : Option (Stimulus Failure) :=
  if !u.loop.ended && u.upload.isOver now then some (.uploadEnded u.upload.outcome)
  else
    match u.upload.unread with
    | some newest => some (.progress newest)
    | none =>
      if u.loop.ended && u.loop.listening then some .closed
      else
        match u.tick with
        | some due => if due ≤ now then some .tick else none
        | none => none

/-- Until when the loop of an update waits if nothing is ready. -/
def Updating.wake (u : Updating) (now : Nat) : Nat :=
  match u.loop.ended, u.tick with
  | false, some due => min u.upload.deadline due
  | false, none => u.upload.deadline
  | true, some due => due
  | true, none => now

/-- What a stimulus takes away from where it comes from. -/
def Updating.consume (period : Nat) (u : Updating) : Stimulus Failure → Updating
  | .progress _ => { u with upload := { u.upload with unread := none } }
  | .tick => { u with tick := u.tick.map (· + period) }
  | .uploadEnded _ | .closed => u

/-- The update after a turn. A countdown that has begun falls due for the first time in a period. -/
def Updating.proceed (period now : Nat) (u : Updating) (loop : UpdateLoop Failure) : Updating :=
  { u with loop, tick := if loop.counting then u.tick.or (some (now + period)) else none }

/-- Shows events on the dashboard. -/
def showEvents (events : List UpdateEvent) (w : Timeline σ) : Timeline σ :=
  w.mapSession fun s => { s with dashboard := events.foldl Dashboard.applyEvent s.dashboard }

/-- One turn of the loop of an update, to where the next one can begin. -/
def turn (loop : UpdateLoop Failure) (x : Stimulus Failure) (w : Timeline σ) :
    Timeline σ × List UpdateEvent × Turn Failure :=
  let (events, turn) := loop.take x
  let w := w.showEvents events
  match turn with
  | .query loop =>
    let (w, answer) := call D .queryVerdict w
    let (more, turn) := loop.answer answer
    (w.showEvents more, events ++ more, turn)
  | turn => (w, events, turn)

/-- Runs an update to its end, in `n` turns and waits at most, and gives all that it has shown. -/
def runUpdate : Nat → Updating → Timeline σ →
    Timeline σ × List UpdateEvent × Except Failure UpdatePhase
  | 0, u, w =>
    (w.mapSession fun s => { s with lifecycle := u.loop.lifecycle }, [],
      .ok u.loop.lifecycle.phase)
  | n + 1, u, w =>
    let u := u.catchUp w.now
    match u.stimulus? w.now with
    | none => runUpdate n u (sleepUntil D (u.wake w.now) w)
    | some x =>
      match turn D u.loop x w with
      | (w, events, .finished lifecycle result) =>
        (w.mapSession fun s => { s with lifecycle }, events, result)
      | (w, events, .select loop) | (w, events, .query loop) =>
        let u := (u.consume w.tickPeriod x).proceed w.tickPeriod w.now loop
        let (w, more, result) := runUpdate n u w
        (w, events ++ more, result)

/-- Submits files for an update and runs it to its end. -/
def update (files : List FirmwareImage) (w : Timeline σ) :
    Timeline σ × List UpdateEvent × Except Failure UpdatePhase :=
  match w.session.lifecycle.submit files with
  | .error e => (w, [], .error (.input e))
  | .ok (image, events, lifecycle) =>
    let (plan, device) := D.upload image w.device
    let w := { w with device, sent := .upload image :: w.sent }.showEvents events
    let turns := 2 * (plan.chunks.length + lifecycle.start + 4)
    let (w, more, result) :=
      runUpdate D turns ⟨.begin lifecycle image, .start plan w.now, none⟩ w
    (w, events ++ more, result)

/-! ### Operations -/

/-- Runs an operation to its end. -/
def runSuspended {α : Type} : Suspended α → Timeline σ → Timeline σ × α
  | .done session a, w => ({ w with session }, a)
  | .call c session resume, w =>
    let (w, answer) := call D c { w with session }
    runSuspended (resume answer w.session) w
  | .update files session resume, w =>
    let (w, _, result) := update D files { w with session }
    runSuspended (resume result w.session) w

/-- Runs an operation of the session to its end, and lets everything happen that is due by
then. -/
def perform {α : Type} (op : Operation α) (w : Timeline σ) : Timeline σ × α :=
  let (w, a) := runSuspended D (op w.session) w
  (settle D w, a)

end Timeline

end FanControl
