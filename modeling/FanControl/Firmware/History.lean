import FanControl.Firmware.Lifecycle

/-!
# Histories of an update

The loop of an update calls the transitions of its lifecycle in an order of its own. The lifecycle
does not rely on it: any transition may be tried at any moment, also one that makes no sense there,
such as a late report or a step of a countdown that is over.

A `LifecycleMove` tries one of the transitions, and the **history** of some moves holds each of
them together with the state that it met, so that it can be asked afterwards which of them had an
effect.

## Main definitions

* `Lifecycle.apply`, `Lifecycle.after`: one move, and some moves one after another;
* `Lifecycle.history`: what the moves met;
* `LifecycleStep.accepts`, `honoured?`, `completes`, `counts`, `reloads`: what came of a step.
-/

namespace FanControl

/-- A transition that is tried. -/
inductive LifecycleMove where
  | submit (files : List FirmwareImage)
  | progress (p : UploadProgress)
  | report (r : UpdateReport)
  | tick
  | uploadFailed
  | reset
deriving DecidableEq, Repr

/-- A move and the state that it met. -/
structure LifecycleStep where
  before : Lifecycle
  move : LifecycleMove

namespace Lifecycle

/-- The lifecycle after a move, and what the move shows. -/
def apply (l : Lifecycle) : LifecycleMove → List UpdateEvent × Lifecycle
  | .submit files =>
    match l.submit files with
    | .ok (_, events, l) => (events, l)
    | .error _ => ([], l)
  | .progress p => ([], (l.progress p).2)
  | .report r => l.report r
  | .tick => l.tick
  | .uploadFailed => l.uploadFailed
  | .reset => ([], l.reset.2)

/-- The lifecycle after some moves. -/
def after (l : Lifecycle) : List LifecycleMove → Lifecycle
  | [] => l
  | m :: moves => (l.apply m).2.after moves

/-- What some moves meet, the first one first. -/
def history (l : Lifecycle) : List LifecycleMove → List LifecycleStep
  | [] => []
  | m :: moves => ⟨l, m⟩ :: (l.apply m).2.history moves

end Lifecycle

namespace LifecycleStep

/-- What a step shows. -/
def events (s : LifecycleStep) : List UpdateEvent := (s.before.apply s.move).1

/-- Whether a step starts an update. -/
def accepts (s : LifecycleStep) : Bool :=
  match s.move with
  | .submit files => (s.before.submit files).isOk
  | _ => false

/-- The report that counts in a step, which it does only while polling. -/
def honoured? (s : LifecycleStep) : Option UpdateReport :=
  match s.move with
  | .report r => if s.before.phase = .polling then some r else none
  | _ => none

/-- Whether a step learns that the image is complete. -/
def completes (s : LifecycleStep) : Bool := s.honoured?.any fun r => r.verdict == .complete

/-- Whether a step counts down, and does not come when no countdown is running. -/
def counts (s : LifecycleStep) : Bool :=
  match s.move with
  | .tick => !s.before.tick.1.isEmpty
  | _ => false

/-- Whether a step asks for a reload. -/
def reloads (s : LifecycleStep) : Bool := s.events.contains .reload

end LifecycleStep

end FanControl
