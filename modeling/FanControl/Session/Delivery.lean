import FanControl.Dashboard.History
import FanControl.Polling

/-!
# How a status gets to the dashboard

Two tasks of a session stand between a device and the dashboard. The **poll task** asks for the
status and publishes what it gets. The **reader** waits for publications, takes the latest and, when
it gets hold of the dashboard, applies it. They run beside each other and beside the session, which
spawns them when it is started and aborts them when it is stopped. An aborted task takes no further
step, wherever it stands: with a request under way, with a report that is not published yet, or with
a status in hand that is not applied yet.

A session knows a task only by the handle that spawning it gave. A task whose handle is lost could
not be aborted any more and would go on beside its successor; nothing but the order in which a call
does its actions keeps this from happening.

What can happen next is a `DeliveryMove`. A list of moves picks one order of all that the tasks and
the session do, and a statement about all lists is one about every order.

## Main definitions

* `Tasks`: the tasks of one kind and the handle of the session;
* `SessionCall.actions`: what starting and stopping do, one thing at a time;
* `Delivery.move?`, `Delivery.run`: one move, and a list of them.
-/

namespace FanControl

/-! ### Tasks -/

/-- The tasks of one kind that have been spawned and not been aborted, each under a number of its
own, and the number under which the session knows one of them. -/
structure Tasks (α : Type) where
  spawned : Nat
  alive : List (Nat × α)
  handle : Option Nat

namespace Tasks

variable {α : Type}

/-- No task. -/
def none : Tasks α := ⟨0, [], .none⟩

/-- One more task, whose handle takes the place of the one before. -/
def spawn (t : Tasks α) (a : α) : Tasks α :=
  ⟨t.spawned + 1, (t.spawned, a) :: t.alive, some t.spawned⟩

/-- Aborts the task that the handle is for, if there is a handle, and gives the handle up. -/
def abort (t : Tasks α) : Tasks α :=
  match t.handle with
  | some id => { t with alive := t.alive.filter fun x => x.1 != id, handle := .none }
  | .none => t

/-- Where a task stands that is alive. -/
def at? (t : Tasks α) (id : Nat) : Option α := t.alive.lookup id

/-- Has a task stand elsewhere. -/
def set (t : Tasks α) (id : Nat) (a : α) : Tasks α :=
  { t with alive := t.alive.map fun x => if x.1 = id then (id, a) else x }

end Tasks

/-- Where a poll task stands. -/
inductive PollStage where
  /-- The task waits for its ticker. -/
  | resting
  /-- The task waits for the device. -/
  | asking
  /-- The task has got a report and is about to publish it. -/
  | answered (status : Status)

/-- Where a reader stands. -/
structure StatusReader where
  /-- How many publications there had been when it began. -/
  since : Nat
  /-- How many of the publications it has taken or passed over. -/
  seen : Nat
  /-- The status that it has taken and is about to apply. -/
  held : Option Status

/-! ### Calls -/

/-- What a session is asked for. -/
inductive SessionCall where
  | start
  | stop
deriving DecidableEq

/-- One of the things that a call does. -/
inductive SessionAction where
  | abortPoll
  | abortReader
  /-- Spawns a reader, for whom all that has been published so far is over. -/
  | subscribe
  | spawnPoll

/-- What a call does, in this order. Starting begins with stopping, and the poll task is aborted
once more before there is another one. -/
def SessionCall.actions : SessionCall → List SessionAction
  | start => [.abortPoll, .abortReader, .subscribe, .abortPoll, .spawnPoll]
  | stop => [.abortPoll, .abortReader]

/-! ### Moves -/

/-- What can happen next. Tasks go by their numbers. -/
inductive DeliveryMove where
  /-- The session is started or stopped, which it does not do before it is through with the last
  call. -/
  | call (c : SessionCall)
  /-- The call at hand does the next of its actions. -/
  | act
  /-- A poll task asks for the status. -/
  | ask (task : Nat)
  /-- A poll task gets a report, or none. -/
  | answer (task : Nat) (report : Option Status)
  /-- A poll task publishes its report. -/
  | publish (task : Nat)
  /-- A reader takes the latest status, if it has not seen it. -/
  | take (task : Nat)
  /-- A reader applies the status that it has taken to the dashboard. -/
  | apply (task : Nat)
  /-- Something else is written on the dashboard. -/
  | note (m : DashboardMove)
  /-- The dashboard is emptied. -/
  | clear

/-- The session, its tasks and all that has become of them so far. -/
structure Delivery where
  /-- What the call at hand has still to do. -/
  todo : List SessionAction
  /-- The last call. -/
  called : Option SessionCall
  polls : Tasks PollStage
  readers : Tasks StatusReader
  /-- What is published. What a reader has seen of it is with the reader. -/
  feed : StatusFeed
  dashboard : Dashboard
  /-- How often the device has been asked. -/
  asked : Nat
  /-- The reports that the device has given, the first one first. -/
  fetched : List Status
  /-- What has been published. -/
  published : List Status
  /-- What has been applied to the dashboard. -/
  applied : List Status

namespace Delivery

/-- A session that has done nothing. -/
def initial : Delivery :=
  ⟨[], none, .none, .none, .empty, .empty, 0, [], [], []⟩

/-- The session has been started, and the call is over. -/
def IsStarted (d : Delivery) : Prop := d.todo = [] ∧ d.called = some .start

/-- The session has been stopped or never been started, and the call is over. -/
def IsStopped (d : Delivery) : Prop := d.todo = [] ∧ d.called ≠ some .start

/-- The session is being started, and is about to spawn a reader. -/
def IsSubscribing (d : Delivery) : Prop := d.todo.head? = some .subscribe

/-- After one of the actions of a call. -/
def act (d : Delivery) : SessionAction → Delivery
  | .abortPoll => { d with polls := d.polls.abort }
  | .abortReader => { d with readers := d.readers.abort }
  | .subscribe => { d with readers := d.readers.spawn ⟨d.feed.version, d.feed.version, none⟩ }
  | .spawnPoll => { d with polls := d.polls.spawn .resting }

/-- After a move, if it can be made. -/
def move? (d : Delivery) : DeliveryMove → Option Delivery
  | .call c => if d.todo.isEmpty then some { d with todo := c.actions, called := some c } else none
  | .act =>
    match d.todo with
    | action :: rest => some ({ d with todo := rest }.act action)
    | [] => none
  | .ask task =>
    match d.polls.at? task with
    | some .resting => some { d with polls := d.polls.set task .asking, asked := d.asked + 1 }
    | _ => none
  | .answer task report =>
    match d.polls.at? task, report with
    | some .asking, some status =>
      some { d with polls := d.polls.set task (.answered status), fetched := d.fetched ++ [status] }
    | some .asking, none => some { d with polls := d.polls.set task .resting }
    | _, _ => none
  | .publish task =>
    match d.polls.at? task with
    | some (.answered status) => some { d with
        polls := d.polls.set task .resting
        feed := d.feed.publish status
        published := d.published ++ [status] }
    | _ => none
  | .take task =>
    match d.readers.at? task with
    | some ⟨since, seen, none⟩ =>
      match { d.feed with seen := some seen }.take with
      | (some status, _) =>
        some { d with readers := d.readers.set task ⟨since, d.feed.version, some status⟩ }
      | (none, _) => none
    | _ => none
  | .apply task =>
    match d.readers.at? task with
    | some ⟨since, seen, some status⟩ => some { d with
        readers := d.readers.set task ⟨since, seen, none⟩
        dashboard := d.dashboard.applyStatus status
        applied := d.applied ++ [status] }
    | _ => none
  | .note m => if m.isReport then none else some { d with dashboard := d.dashboard.apply m }
  | .clear => some { d with dashboard := .empty }

/-- After some moves, if they can be made in this order. -/
def run (d : Delivery) : List DeliveryMove → Option Delivery
  | [] => some d
  | m :: moves => (d.move? m).bind fun d => d.run moves

/-- Whether a reader waits for another publication. -/
def IsResting (d : Delivery) (r : StatusReader) : Prop :=
  r.held = none ∧ d.feed.version ≤ r.seen

end Delivery

end FanControl
