import FanControl.Configuration
import FanControl.Dashboard
import FanControl.Firmware.UpdateLoop
import FanControl.Form
import FanControl.Polling
import FanControl.Session.Call

/-!
# Sessions

A session is what one operator works with: the dashboard, the three forms, the selected slot, the
state of a firmware update, and the polling that keeps the dashboard up to date.

While an operation of the session waits for the device, polling goes on and may change the
dashboard. So an operation is a program that can be suspended: `Suspended` is an operation that
has got somewhere, and each of its waits gives back the session as it is by then. Nothing is said
about how long a wait lasts or who answers; `FanControl.Session.Timeline` runs operations in time,
and a law about all devices is a law about all answers.
-/

namespace FanControl

/-- The state of a session. -/
structure Session where
  configuration : Configuration
  dashboard : Dashboard
  manualForm : ManualForm
  autoForm : AutoForm
  slotForm : SlotForm
  selectedSlot : SlotId
  lifecycle : Lifecycle
  poller : Poller Failure
  feed : StatusFeed

namespace Session

/-- A session that has done nothing. -/
def new (c : Configuration) : Session where
  configuration := c
  dashboard := .empty
  manualForm := .empty
  autoForm := .empty
  slotForm := .empty
  selectedSlot := .first
  lifecycle := .new c.countdown.toNat
  poller := .idle
  feed := .empty

/-- The dashboard catches up with what has been published. -/
def reconcile (s : Session) : Session :=
  match s.feed.take with
  | (some status, feed) => { s with feed, dashboard := s.dashboard.applyStatus status }
  | (none, feed) => { s with feed }

/-- A status report has come in, or has failed to. -/
def deliver (s : Session) : Except Failure Status → Session
  | .ok status => { s with feed := s.feed.publish status }
  | .error _ => s

end Session

/-- An operation that gives an `α` in the end: it is done, or it waits with the session as it has
left it and goes on from the session as it will be. -/
inductive Suspended (α : Type) : Type where
  | done (session : Session) (result : α)
  /-- Waits for the device to answer a call. -/
  | call (c : Call) (session : Session)
      (resume : Except Failure c.Answer → Session → Suspended α)
  /-- Waits for a firmware update to run its course. -/
  | update (files : List FirmwareImage) (session : Session)
      (resume : Except Failure UpdatePhase → Session → Suspended α)

/-- Goes on after an operation. -/
def Suspended.bind {α β : Type} (f : α → Session → Suspended β) : Suspended α → Suspended β
  | done s a => f a s
  | call c s resume => .call c s fun answer s => (resume answer s).bind f
  | update files s resume => .update files s fun answer s => (resume answer s).bind f

/-- An operation on a session. -/
def Operation (α : Type) : Type := Session → Suspended α

namespace Operation

variable {α β : Type}

instance : Monad Operation where
  pure a := fun s => .done s a
  bind m f := fun s => (m s).bind fun a s => f a s

/-- The session as it is. -/
def get : Operation Session := fun s => .done s s

/-- Changes the session. -/
def modify (f : Session → Session) : Operation Unit := fun s => .done (f s) ()

/-- Makes a call and waits for the answer. -/
def call (c : Call) : Operation (Except Failure c.Answer) :=
  fun s => .call c s fun answer s => .done s answer

/-- Runs a firmware update and waits for its end. -/
def update (files : List FirmwareImage) : Operation (Except Failure UpdatePhase) :=
  fun s => .update files s fun answer s => .done s answer

end Operation

end FanControl
