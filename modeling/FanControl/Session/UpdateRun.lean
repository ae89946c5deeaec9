import FanControl.Firmware.UpdateLoop
import FanControl.Session.Call

/-!
# Runs of a firmware update

The loop of an update says what each stimulus does to it. A **run** is the loop together with what
the stimuli come from: the request that uploads the image, the reports of progress that wait to be
seen, the countdown and the clock. Where several stimuli are ready at the same moment any of them
may be taken, and the device answers whatever it likes, so one update has many runs. A list of
`UpdateMove`s picks one of them, and a statement about all lists of moves is a statement about
every device and every order.

The upload goes on while the loop waits for an answer, and its last report may be seen before or
after the end of the request. The reports come to an end only when all of them have been seen.

## Main definitions

* `UpdateMove`, `UpdateRun`: what can happen next, and where a run stands;
* `UpdateRun.start`: an update that is asked for;
* `UpdateRun.move?`, `UpdateRun.run`: one move, and a list of them.
-/

namespace FanControl

/-- What has become of the request that uploads the image. -/
inductive UploadRequest where
  /-- The request was never made. -/
  | unsent
  | inFlight
  | ended (outcome : Except Failure Unit)

/-- What can happen next in a run. -/
inductive UpdateMove where
  /-- Time passes. -/
  | wait (ms : Nat)
  /-- The upload reports progress. -/
  | report
  /-- The end of the upload request is taken up. -/
  | finish (outcome : Except Failure Unit)
  /-- The newest of the reports that have come in is taken up. -/
  | look
  /-- The end of all reports is taken up. -/
  | close
  /-- The countdown is taken up. -/
  | tick
  /-- The device answers the query, or the query fails. -/
  | answer (answer : Except Failure UpdateReport)

/-- A run, and all that it has done so far. -/
structure UpdateRun where
  now : Nat
  turn : Turn Failure
  /-- The progress that the upload has still to report. -/
  coming : List UploadProgress
  /-- The progress that has been reported and not been seen. -/
  unread : List UploadProgress
  /-- When the countdown falls due next, while it is running. -/
  due : Option Nat
  upload : UploadRequest
  /-- What became of the queries, the first one first. -/
  answers : List (Except Failure UpdateReport)
  /-- What has been shown, the first event first. -/
  events : List UpdateEvent

/-- Whether a countdown is running. -/
def Turn.counting {ε : Type} : Turn ε → Bool
  | .select loop | .query loop => loop.counting
  | .finished _ _ => false

/-- The update as it is in a turn. -/
def Turn.lifecycle {ε : Type} : Turn ε → Lifecycle
  | .select loop | .query loop => loop.lifecycle
  | .finished lifecycle _ => lifecycle

namespace UpdateRun

/-- Where the update stands. -/
def phase (r : UpdateRun) : UpdatePhase := r.turn.lifecycle.phase

/-- A run for some files, with the progress that an upload would report. What is refused is over
before anything is sent. -/
def start (now : Nat) (lifecycle : Lifecycle) (files : List FirmwareImage)
    (coming : List UploadProgress) : UpdateRun :=
  match lifecycle.submit files with
  | .error e => ⟨now, .finished lifecycle (.error (.input e)), coming, [], none, .unsent, [], []⟩
  | .ok (image, events, lifecycle) =>
    ⟨now, .select (.begin lifecycle image), coming, [], none, .inFlight, [], events⟩

/-- What happens without the loop. -/
def background? (r : UpdateRun) : UpdateMove → Option UpdateRun
  | .wait ms => some { r with now := r.now + ms }
  | .report =>
    match r.coming with
    | [] => none
    | p :: rest => some { r with coming := rest, unread := r.unread ++ [p] }
  | _ => none

/-- The stimulus that a move hands to the loop, if it is ready. -/
def stimulus? (r : UpdateRun) : UpdateMove → Option (Stimulus Failure)
  | .finish outcome => some (.uploadEnded outcome)
  | .look => r.unread.getLast?.map .progress
  | .close => if r.coming = [] ∧ r.unread = [] then some .closed else none
  | .tick => if r.due.any (· ≤ r.now) then some .tick else none
  | .wait _ | .report | .answer _ => none

/-- What a move takes away from where its stimulus comes from. The countdown falls due once in a
period, however late it is taken up. -/
def consume (period : Nat) (r : UpdateRun) : UpdateMove → UpdateRun
  | .finish outcome => { r with upload := .ended outcome }
  | .look => { r with unread := [] }
  | .tick => { r with due := r.due.map (· + period) }
  | .answer a => { r with answers := r.answers ++ [a] }
  | .wait _ | .report | .close => r

/-- The run after a turn. A countdown that has begun falls due for the first time in a period. -/
def proceed (period : Nat) (r : UpdateRun) (outcome : List UpdateEvent × Turn Failure) :
    UpdateRun :=
  { r with
    turn := outcome.2
    events := r.events ++ outcome.1
    due := if outcome.2.counting then r.due.or (some (r.now + period)) else none }

/-- The run after a move, if it can be made. -/
def move? (period : Nat) (r : UpdateRun) (m : UpdateMove) : Option UpdateRun :=
  match r.turn with
  | .finished _ _ => none
  | .query loop =>
    match m with
    | .answer a => some ((r.consume period m).proceed period (loop.answer a))
    | m => r.background? m
  | .select loop =>
    match r.stimulus? m with
    | some x =>
      if loop.isReady x then some ((r.consume period m).proceed period (loop.take x)) else none
    | none => r.background? m

/-- The run after some moves, if they can be made in this order. -/
def run (period : Nat) (r : UpdateRun) : List UpdateMove → Option UpdateRun
  | [] => some r
  | m :: moves => (r.move? period m).bind fun r => r.run period moves

end UpdateRun

end FanControl
