import FanControl.Dashboard.History
import FanControl.Proofs.Session.Waiting
import FanControl.Session.Observation

/-!
# What the operations of a session are made of

Whatever an operator asks for, the operation edits the forms, writes on the dashboard, begins or
ends polling, changes the state of the update, makes calls, or runs an update. So **it stays within
all limits that allow these**. The operations are gone through once, here; what is to be known of
all of them is then known of the few things that they are made of.

Reading the panels asks for less than a reload, and a reload for less than an arbitrary operation;
hence `Limits.AllowsStart`, `Limits.AllowsReload` and `Limits.AllowsAll`.

## Main results

* `Session.start_within`, `Session.reload_within`: operations that only ask the device;
* `SessionCommand.operation_within`: all operations.
-/

namespace FanControl

/-- A session without its forms. -/
def Session.withoutForms (s : Session) : Session :=
  { s with
    manualForm := .empty
    autoForm := .empty
    slotForm := .empty
    selectedSlot := .first }

namespace Limits

/-- Limits that allow the panels to be read and polling to begin and to end. -/
structure AllowsStart (L : Limits) : Prop where
  forms : ∀ {s t : Session}, t.withoutForms = s.withoutForms → L.keeps s → L.keeps t
  note : ∀ {s : Session} {m : DashboardMove}, m.isReport = false → L.keeps s →
    L.keeps { s with dashboard := s.dashboard.apply m }
  stop : ∀ {s : Session}, L.keeps s →
    L.keeps { s with poller := s.poller.stop, feed := s.feed.unsubscribe }
  start : ∀ {s : Session}, L.keeps s →
    L.keeps { s with
      feed := s.feed.subscribe
      poller := s.poller.start s.configuration.pollIntervalMs.toNat }
  reads : ∀ x : Call, x.isWrite = false → L.calls x

/-- Limits that also allow a session to be started from nothing. -/
structure AllowsReload (L : Limits) : Prop extends L.AllowsStart where
  clear : ∀ {s : Session}, L.keeps s → L.keeps { s with dashboard := .empty }
  lifecycle : ∀ {s : Session} (l : Lifecycle), L.keeps s → L.keeps { s with lifecycle := l }

/-- Limits that allow every operation. -/
structure AllowsAll (L : Limits) : Prop extends L.AllowsReload where
  calls : ∀ x : Call, L.calls x
  updates : L.updates

end Limits

namespace Session

open Operation

variable {L : Limits}

/-! ### Reading the panels -/

theorem notify_within (h : L.AllowsStart) (panel : Mode) (notice : Notice) :
    (notify panel notice).Within L :=
  .modify fun _ => h.note (m := .notify panel notice) rfl

/-- An operation that ends with a notice stays within limits that allow notices. -/
theorem notify_pure_within {α : Type} (h : L.AllowsStart) (panel : Mode) (notice : Notice) (a : α) :
    (do notify panel notice; return a : Operation α).Within L :=
  .bind (notify_within h panel notice) fun _ => .pure a

theorem loadManual_within (h : L.AllowsStart) : loadManual.Within L := by
  refine .bindCall (h.reads _ rfl) (fun report => ?_) fun _ => .pure _
  exact .bind (.modify fun _ => h.forms rfl) fun _ => .pure _

theorem loadAuto_within (h : L.AllowsStart) : loadAuto.Within L := by
  refine .bind .get fun _ => .bindCall (h.reads _ rfl) (fun report => ?_) fun _ => .pure _
  exact .bind (.modify fun _ => h.forms rfl) fun _ => .pure _

theorem loadSlot_within (h : L.AllowsStart) : loadSlot.Within L := by
  refine .bind (notify_within h _ _) fun _ => .bind .get fun _ =>
    .bindCall (h.reads _ rfl) (fun slot => ?_) fun _ => notify_pure_within h _ _ _
  exact .bind (.modify fun _ => h.forms rfl) fun _ => notify_pure_within h _ _ _

/-! ### Starting and stopping -/

theorem stop_within (h : L.AllowsStart) : stop.Within L := .modify fun _ => h.stop

/-- **Starting stays within limits that allow the panels to be read** and polling to begin and to
end. -/
theorem start_within (h : L.AllowsStart) : start.Within L :=
  .bind (stop_within h) fun _ => .bind (.modify fun _ => h.start) fun _ =>
    .bind (loadManual_within h) fun _ => .bind (loadAuto_within h) fun _ =>
      .bind (loadSlot_within h) fun _ => .pure _

theorem resetUpdate_within (h : L.AllowsReload) : resetUpdate.Within L :=
  fun _ hs => .done (h.lifecycle _ hs) _

/-- **A reload stays within limits that allow it.** -/
theorem reload_within (h : L.AllowsReload) : reload.Within L := by
  refine .bind (stop_within h.toAllowsStart) fun _ => .bind (.modify fun s hs => ?_) fun _ =>
    .bind (resetUpdate_within h) fun _ => start_within h.toAllowsStart
  exact h.forms (s := { s with dashboard := .empty }) rfl (h.clear hs)

theorem wifiStatus_within (h : L.AllowsStart) : wifiStatus.Within L :=
  .bindCall (h.reads _ rfl) (fun _ => .pure _) fun _ => .pure _

/-! ### Saving -/

/-- **A save stays within limits that allow everything**: it is a notice, its call, and a notice of
how that came out. -/
theorem save_within {α : Type} (h : L.AllowsAll) {x : Call} {panel : Mode}
    {busy saved failed : Notice} {a : α}
    {resume : Except Failure x.Answer → Operation (Except Failure α)}
    (hok : ∀ answer, resume (.ok answer) = do notify panel saved; return .ok a)
    (herror : ∀ e, resume (.error e) = do notify panel failed; return .error e) :
    (do notify panel busy; call x >>= resume).Within L := by
  refine .bind (notify_within h.toAllowsStart panel busy) fun _ =>
    .bindCall (h.calls x) (fun answer => ?_) fun e => ?_
  · rw [hok]
    exact notify_pure_within h.toAllowsStart panel saved _
  · rw [herror]
    exact notify_pure_within h.toAllowsStart panel failed _

theorem saveManual_within (h : L.AllowsAll) : saveManual.Within L :=
  .bind .get fun _ => save_within h (fun _ => rfl) fun _ => rfl

theorem saveAuto_within (h : L.AllowsAll) : saveAuto.Within L :=
  .bind .get fun _ => save_within h (fun _ => rfl) fun _ => rfl

theorem saveSlot_within (h : L.AllowsAll) : saveSlot.Within L :=
  .bind .get fun _ => save_within h (fun _ => rfl) fun _ => rfl

theorem eraseSlot_within (h : L.AllowsAll) : eraseSlot.Within L := by
  have hstart := h.toAllowsStart
  refine .bind (notify_within hstart _ _) fun _ => .bind .get fun _ =>
    .bindCall (h.calls _) (fun _ => ?_) fun _ => notify_pure_within hstart _ _ _
  exact .bind (.modify fun _ => h.forms rfl) fun _ => notify_pure_within hstart _ _ _

theorem applyMode_within (h : L.AllowsAll) : applyMode.Within L := by
  have hnote (notice : Notice) :
      (modify fun s => { s with dashboard := s.dashboard.setModeNotice notice }).Within L :=
    .modify fun _ => h.note (m := .notifyMode notice) rfl
  refine .bind .get fun s => ?_
  cases s.dashboard.panel.visible with
  | none => exact .bind (hnote _) fun _ => .pure _
  | some panel =>
      refine .bind (hnote _) fun _ => ?_
      cases panel with
      | manual => exact .bind (saveManual_within h) fun _ => .pure _
      | auto => exact .bind (saveAuto_within h) fun _ => .pure _
      | scheduled => exact .bind (saveSlot_within h) fun _ => .pure _

/-! ### Updates and the network -/

theorem updateFirmware_within (h : L.AllowsAll) (files : List FirmwareImage) :
    (updateFirmware files).Within L := by
  refine .bind (fun _ hs => .update h.updates hs fun result _ hs => .done hs result)
    fun result => ?_
  cases result with
  | error e =>
      cases e with
      | input cause =>
          exact .bind (.modify fun _ => h.note (m := .updateMessage cause.message) rfl) fun _ =>
            .pure _
      | _ => exact .bind (.pure _) fun _ => .pure _
  | ok phase =>
      cases phase with
      | succeeded => exact .bind (reload_within h.toAllowsReload) fun _ => .pure _
      | idle | uploading | polling | rebooting | failed => exact .pure _

theorem connectWifi_within (h : L.AllowsAll) (ssid password : String) (timestamp : Int64) :
    (connectWifi ssid password timestamp).Within L := by
  rw [connectWifi]
  split
  · exact .pure _
  · split
    · exact .pure _
    · exact .bindCall (h.calls _) (fun _ => .pure _) fun _ => .pure _

end Session

/-- **Every operation stays within limits that allow everything.** -/
theorem SessionCommand.operation_within {L : Limits} (h : L.AllowsAll) (x : SessionCommand) :
    x.operation.Within L := by
  cases x with
  | start => exact Session.start_within h.toAllowsStart
  | stop => exact Session.stop_within h.toAllowsStart
  | selectPanel panel => exact .modify fun _ => h.note (m := .selectPanel panel) rfl
  | selectSlot _ | editManual _ | editAuto _ | editSlot _ => exact .modify fun _ => h.forms rfl
  | loadManual => exact Session.loadManual_within h.toAllowsStart
  | saveManual => exact Session.saveManual_within h
  | loadAuto => exact Session.loadAuto_within h.toAllowsStart
  | saveAuto => exact Session.saveAuto_within h
  | loadSlot => exact Session.loadSlot_within h.toAllowsStart
  | saveSlot => exact Session.saveSlot_within h
  | eraseSlot => exact Session.eraseSlot_within h
  | applyMode => exact Session.applyMode_within h
  | updateFirmware files => exact Session.updateFirmware_within h files
  | resetUpdate => exact Session.resetUpdate_within h.toAllowsReload
  | connectWifi ssid password timestamp =>
      exact Session.connectWifi_within h ssid password timestamp
  | wifiStatus => exact Session.wifiStatus_within h.toAllowsStart

end FanControl
