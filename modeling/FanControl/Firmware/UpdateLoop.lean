import FanControl.Firmware.Lifecycle

/-!
# The loop of a firmware update

While an image is uploaded, four things can happen: the upload request ends, progress of the
upload is reported, the reporting is over, and, once the device is rebooting, a countdown falls
due. Several of them may be ready at the same moment, and `UpdateLoop.take` says what each of them
does to the loop; in which order they are taken is left to whoever runs it.

Progress is not handled one report at a time: whoever runs the loop hands over the newest of all
that have come in. Progress and the end of the request are occasions to ask the device for its
verdict. The loop then waits for the answer and for nothing else; an answer that does not come is
one missed occasion.

The loop is over when the countdown has run out, or when the upload has ended, all progress has
been seen and no countdown is running. A verdict outweighs whatever became of the upload request.

## Main definitions

* `Stimulus`: what can happen;
* `Turn`: what the loop waits for next;
* `UpdateLoop.take`, `UpdateLoop.answer`: the transitions, with the events that they show.
-/

namespace FanControl

/-- What can happen to the loop of an update; `ε` is the type of failures of requests. -/
inductive Stimulus (ε : Type) where
  /-- The upload request has ended. -/
  | uploadEnded (outcome : Except ε Unit)
  /-- Progress has come in, of which this is the newest. -/
  | progress (newest : UploadProgress)
  /-- All progress has been seen, and no more can come. -/
  | closed
  /-- The countdown falls due. -/
  | tick

/-- The loop of an update that is under way. -/
structure UpdateLoop (ε : Type) where
  lifecycle : Lifecycle
  /-- How many bytes the image has. -/
  size : Nat
  /-- Whether the upload request has ended. -/
  ended : Bool
  /-- How the upload request failed, if it did. -/
  failure : Option ε
  /-- Whether progress may still come in. -/
  listening : Bool
  /-- Whether the countdown is running. -/
  counting : Bool

/-- What the loop waits for. -/
inductive Turn (ε : Type) where
  /-- For one of the things that can happen. -/
  | select (loop : UpdateLoop ε)
  /-- For the verdict of the device. -/
  | query (loop : UpdateLoop ε)
  /-- For nothing: the update is over. -/
  | finished (lifecycle : Lifecycle) (result : Except ε UpdatePhase)

namespace UpdateLoop

variable {ε : Type}

/-- The loop of an update that has been submitted. -/
def begin (lifecycle : Lifecycle) (image : FirmwareImage) : UpdateLoop ε :=
  ⟨lifecycle, image.size, false, none, true, false⟩

/-- What the loop waits for as it stands. -/
def isReady (s : UpdateLoop ε) : Stimulus ε → Bool
  | .uploadEnded _ => !s.ended
  | .progress _ | .closed => s.listening
  | .tick => s.counting

/-- The end of the update. A failed upload request counts only if no verdict has been given. -/
def conclude (s : UpdateLoop ε) : List UpdateEvent × Turn ε :=
  match s.failure with
  | some e =>
    if s.lifecycle.phase.awaitsVerdict then
      let (events, lifecycle) := s.lifecycle.uploadFailed
      (events, .finished lifecycle (.error e))
    else ([], .finished s.lifecycle (.ok s.lifecycle.phase))
  | none => ([], .finished s.lifecycle (.ok s.lifecycle.phase))

/-- The end of a turn: the countdown begins with the reboot, and the loop may be over. -/
def settle (s : UpdateLoop ε) : List UpdateEvent × Turn ε :=
  let s := { s with counting := s.counting || s.lifecycle.phase == .rebooting }
  if s.ended && !s.listening && !s.counting then s.conclude else ([], .select s)

/-- Progress of the upload, reported or concluded from its end. -/
def progress (s : UpdateLoop ε) (p : UploadProgress) : List UpdateEvent × Turn ε :=
  let (action, lifecycle) := s.lifecycle.progress p
  let s := { s with lifecycle }
  match action with
  | .query => ([], .query s)
  | .unknownSize | .ignore => s.settle

/-- The turn that something begins. When the upload request ends, the whole image has been handed
over, and the device is asked once more. -/
def take (s : UpdateLoop ε) : Stimulus ε → List UpdateEvent × Turn ε
  | .uploadEnded outcome =>
    let failure := match outcome with
      | .ok () => none
      | .error e => some e
    let size := UInt64.ofNat s.size
    { s with ended := true, failure }.progress ⟨size, some size⟩
  | .progress newest => s.progress newest
  | .closed => { s with listening := false }.settle
  | .tick =>
    let (events, lifecycle) := s.lifecycle.tick
    if events.contains .reload then (events, .finished lifecycle (.ok lifecycle.phase))
    else
      let (more, turn) := { s with lifecycle }.settle
      (events ++ more, turn)

/-- The end of a turn that waited for the device. -/
def answer (s : UpdateLoop ε) : Except ε UpdateReport → List UpdateEvent × Turn ε
  | .ok report =>
    let (events, lifecycle) := s.lifecycle.report report
    let (more, turn) := { s with lifecycle }.settle
    (events ++ more, turn)
  | .error _ => s.settle

end UpdateLoop

end FanControl
