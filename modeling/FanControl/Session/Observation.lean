import FanControl.Session.Timeline

/-!
# What is seen of a session

An operator gives commands, lets time pass, and looks at the session in between. A `SessionView`
is what there is to look at, and the observations of some steps are what each of them gave and how
the session looked after it. While a command runs the session changes at its waits too;
`Timeline.glimpses` is how it looks at the beginning and at the end of each of them.

## Main definitions

* `SessionCommand`, `SessionStep`: what an operator can ask for, and what can happen next;
* `Timeline.step`, `Timeline.after`: one step, and some steps one after another;
* `Timeline.observations`, `Timeline.glimpses`: what they show.
-/

namespace FanControl

/-- What an operator sees of a session and edits in it. -/
structure SessionView where
  dashboard : Dashboard
  manualForm : ManualForm
  autoForm : AutoForm
  slotForm : SlotForm
  selectedSlot : SlotId
  phase : UpdatePhase
  isPolling : Bool
deriving DecidableEq, Repr

/-- How a session looks. -/
def Session.view (s : Session) : SessionView where
  dashboard := s.dashboard
  manualForm := s.manualForm
  autoForm := s.autoForm
  slotForm := s.slotForm
  selectedSlot := s.selectedSlot
  phase := s.lifecycle.phase
  isPolling := s.poller.isRunning

/-- What an operator can ask of a session. A form is edited as a whole. -/
inductive SessionCommand where
  | start
  | stop
  | selectPanel (panel : Mode)
  | selectSlot (id : SlotId)
  | editManual (form : ManualForm)
  | editAuto (form : AutoForm)
  | editSlot (form : SlotForm)
  | loadManual
  | saveManual
  | loadAuto
  | saveAuto
  | loadSlot
  | saveSlot
  | eraseSlot
  | applyMode
  | updateFirmware (files : List FirmwareImage)
  | resetUpdate
  | connectWifi (ssid password : String) (timestamp : Int64)
  | wifiStatus

namespace SessionCommand

/-- What a command gives. -/
def Result : SessionCommand → Type
  | start | stop | selectPanel _ | selectSlot _ | editManual _ | editAuto _ | editSlot _ => Unit
  | loadManual | saveManual => Except Failure ManualSetting
  | loadAuto | saveAuto => Except Failure AutoSetting
  | loadSlot | saveSlot => Except Failure Slot
  | eraseSlot | connectWifi .. => Except Failure Unit
  | applyMode => Except Failure Mode
  | updateFirmware _ => Except Failure UpdatePhase
  | resetUpdate => Bool
  | wifiStatus => Except Failure Wifi.Status

/-- How a command is carried out. -/
def operation : (x : SessionCommand) → Operation x.Result
  | start => Session.start
  | stop => Session.stop
  | selectPanel panel => Session.selectPanel panel
  | selectSlot id => Session.selectSlot id
  | editManual form => Operation.modify fun s => { s with manualForm := form }
  | editAuto form => Operation.modify fun s => { s with autoForm := form }
  | editSlot form => Operation.modify fun s => { s with slotForm := form }
  | loadManual => Session.loadManual
  | saveManual => Session.saveManual
  | loadAuto => Session.loadAuto
  | saveAuto => Session.saveAuto
  | loadSlot => Session.loadSlot
  | saveSlot => Session.saveSlot
  | eraseSlot => Session.eraseSlot
  | applyMode => Session.applyMode
  | updateFirmware files => Session.updateFirmware files
  | resetUpdate => Session.resetUpdate
  | connectWifi ssid password timestamp => Session.connectWifi ssid password timestamp
  | wifiStatus => Session.wifiStatus

end SessionCommand

/-- What can happen next to a session. -/
inductive SessionStep where
  /-- Time passes, and polling goes on if it is running. -/
  | wait (ms : Nat)
  | command (x : SessionCommand)

/-- What a step gives. -/
def SessionStep.Result : SessionStep → Type
  | wait _ => Unit
  | command x => x.Result

/-- A step, what it gave, and how the session looked after it. -/
structure Observation where
  step : SessionStep
  result : step.Result
  view : SessionView

namespace Timeline

variable {σ : Type} (D : DeviceModel σ)

/-- A session that has done nothing, with a device at some time. -/
def fresh (c : Configuration) (now : Nat) (device : σ) : Timeline σ := ⟨now, device, .new c, []⟩

/-- Carries out a step. -/
def step (w : Timeline σ) : (x : SessionStep) → Timeline σ × x.Result
  | .wait ms => (w.advance D ms, ())
  | .command x => w.perform D x.operation

/-- The timeline after some steps. -/
def after (w : Timeline σ) : List SessionStep → Timeline σ
  | [] => w
  | x :: xs => (w.step D x).1.after xs

/-- What some steps show, the first one first. -/
def observations (w : Timeline σ) : List SessionStep → List Observation
  | [] => []
  | x :: xs => ⟨x, (w.step D x).2, (w.step D x).1.session.view⟩ :: (w.step D x).1.observations xs

/-- How the session looks while an operation runs: at the beginning and at the end of each of its
waits, and when it is done, each with the time. -/
def glimpses {α : Type} : Suspended α → Timeline σ → List (Nat × SessionView)
  | .done session _, w => [(w.now, session.view)]
  | .call c session resume, w =>
    let (w', answer) := call D c { w with session }
    (w.now, session.view) :: (w'.now, w'.session.view) ::
      glimpses (resume answer w'.session) w'
  | .update files session resume, w =>
    let (w', _, result) := update D files { w with session }
    (w.now, session.view) :: (w'.now, w'.session.view) ::
      glimpses (resume result w'.session) w'

end Timeline

end FanControl
