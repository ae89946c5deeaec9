import FanControl.Proofs.Session.Operations
import FanControl.Proofs.Session.Simulation

/-!
# A reload begins from nothing

When an update has succeeded the session reloads: it stops, forgets what it shows and what has been
edited, and starts. Whatever the session has been through, what is left of it then is a session
that cannot be told apart from a new one: its feed has no reader, its poll loop is gone, and its
lifecycle is idle again. So the reload is a `start` of alike sessions, and from there on two
timelines side by side show the same.

## Main results

* `Session.Alike.cleared`: what a reload leaves of a session is like a new session;
* `Timeline.reload_fresh`: after a reload everything is as after the start of a new session.
-/

namespace FanControl

namespace Session

/-- What a reload leaves of a session before it starts it. -/
def cleared (s : Session) : Session :=
  { s with
    dashboard := .empty
    manualForm := .empty
    autoForm := .empty
    slotForm := .empty
    selectedSlot := .first
    lifecycle := s.lifecycle.reset.2
    poller := s.poller.stop
    feed := s.feed.unsubscribe }

/-- A reload starts what it has left of the session. -/
theorem reload_eq (s : Session) : reload s = start s.cleared := rfl

/-- **What a reload leaves of a session is like a new session**, unless a countdown is running. -/
theorem Alike.cleared {c : Configuration} {s : Session} (h : s.Alike c s)
    (hphase : s.lifecycle.phase ≠ .rebooting) : s.cleared.Alike c (.new c) where
  configuration := ⟨h.configuration.1, rfl⟩
  dashboard := rfl
  manualForm := rfl
  autoForm := rfl
  slotForm := rfl
  selectedSlot := rfl
  lifecycle := by
    have hstart := h.lifecycle.starts.1
    simp only [Session.cleared, Lifecycle.reset, hphase, if_false]
    exact ⟨⟨hstart, rfl⟩, rfl, rfl⟩
  loop := rfl
  feed := .closed rfl rfl

/-- Nothing that a start does touches the update. -/
theorem start_keeps (l : Lifecycle) : start.Keeps fun s => s.lifecycle = l :=
  start_within {
    forms := fun h hs => (congrArg Session.lifecycle h).trans hs
    note := fun _ hs => hs
    stop := fun hs => hs
    start := fun hs => hs
    reads := fun _ _ => trivial }

end Session

namespace Timeline

open Session

variable {c : Configuration} {σ τ : Type} {D : DeviceModel σ} {E : DeviceModel τ}
  {R : σ → τ → Prop}

/-- An update that succeeds leaves the session in the phase `succeeded`. -/
theorem phase_of_update {files : List FirmwareImage} {w : Timeline σ}
    (h : (w.update D files).2.2 = .ok .succeeded) :
    (w.update D files).1.session.lifecycle.phase = .succeeded := by
  cases hsubmit : w.session.lifecycle.submit files with
  | error e => simp [update, hsubmit] at h
  | ok started =>
      obtain ⟨image, events, l⟩ := started
      obtain ⟨hidle, rfl, -, -⟩ := Lifecycle.submit_eq_ok hsubmit
      obtain ⟨coming, moves, r, l', hrun, hturn, -, -, hlifecycle⟩ := update_isRun D [image] w
      rw [h] at hturn
      have hsound := (UpdateRun.sound_start _ image coming hidle).run hrun
      rw [hlifecycle]
      cases (hsound.outcome hturn).2 with
      | succeeded phase => exact phase

/-- How an operation under way looks does not depend on another session. -/
theorem glimpses_session (D : DeviceModel σ) {α : Type} (p : Suspended α) (w : Timeline σ)
    (s : Session) : glimpses D p { w with session := s } = glimpses D p w := by
  cases p <;> simp only [glimpses]

/-- An update of a session that succeeds is one of its device that succeeds, and then a reload. -/
theorem perform_updateFirmware {files : List FirmwareImage} {w : Timeline σ}
    (h : (w.perform D (updateFirmware files)).2 = .ok .succeeded) :
    (w.update D files).2.2 = .ok .succeeded ∧
      (w.perform D (updateFirmware files)).1 =
        ((w.update D files).1.perform D reload).1 := by
  simp only [perform, updateFirmware, bind, Operation.update, Suspended.bind, runSuspended] at h ⊢
  cases hresult : (w.update D files).2.2 with
  | error e =>
      simp only [hresult] at h
      cases e <;> cases h
  | ok phase =>
      simp only [hresult] at h ⊢
      cases phase with
      | succeeded =>
          refine ⟨rfl, ?_⟩
          simp only [runSuspended_bind]
          rfl
      | idle | uploading | polling | rebooting | failed => cases h

/-- **After a reload everything is as after the start of a new session.** However a session has
come to an update that succeeds, the reload at its end shows the same as the start of a new session
with the same configuration at that moment, with a device that gives the same answers from then on:
while the panels are read, when that is done, and after any further steps. A new update is
accepted. -/
theorem reload_fresh (hR : D.SameAnswers E R) (c : Configuration) (began : Nat) (x : σ)
    (history : List SessionStep) (files : List FirmwareImage)
    (hsucceeded :
      (((fresh c began x).after D history).perform D (updateFirmware files)).2 = .ok .succeeded)
    (y : τ) (hxy : R (((fresh c began x).after D history).update D files).1.device y) :
    let w := (fresh c began x).after D history
    let moment := (w.update D files).1
    let reborn := fresh c moment.now y
    let w' := (w.perform D (updateFirmware files)).1
    let v' := (reborn.perform E start).1
    glimpses D (reload moment.session) moment = glimpses E (start reborn.session) reborn ∧
    w'.now = v'.now ∧ w'.session.view = v'.session.view ∧
    (∀ steps, w'.observations D steps = v'.observations E steps) ∧
    w'.session.lifecycle.phase = .idle ∧
    ∀ image, (w'.session.lifecycle.submit [image]).isOk = true := by
  intro w moment reborn w' v'
  -- a timeline beside itself says what every history keeps
  have hhistory : w.Alike c Eq w := (Alike.fresh c began rfl).after D.sameAnswers_self history
  obtain ⟨hupdate, hperform⟩ := perform_updateFirmware hsucceeded
  have hmoment : moment.Alike c Eq moment := (hhistory.update D.sameAnswers_self files).1
  have hphase : moment.session.lifecycle.phase ≠ .rebooting := by
    rw [phase_of_update hupdate]
    decide
  have hcleared : moment.session.cleared.Alike c reborn.session := hmoment.session.cleared hphase
  have hreload : (reload moment.session).Alike c (start reborn.session) := by
    rw [reload_eq]
    exact start_respects _ _ hcleared
  have hbegin : Alike c R { moment with session := moment.session.cleared } reborn :=
    ⟨rfl, hxy, hcleared⟩
  have hback : w'.Alike c R v' := by
    obtain ⟨hrun, -⟩ := hbegin.runSuspended hR hreload
    rw [runSuspended_session] at hrun
    show ((w.perform D (updateFirmware files)).1).Alike c R v'
    rw [hperform]
    exact hrun.settle hR
  have hidle : w'.session.lifecycle.phase = .idle := by
    have hkept : v'.session.lifecycle = Lifecycle.new c.countdown.toNat :=
      perform_keeps E (fun s t h hs => (congrArg Session.lifecycle h).symm.trans hs)
        (start_keeps _) rfl
    rw [hback.session.lifecycle.phase, hkept]
    rfl
  refine ⟨?_, hback.now, hback.session.view, fun steps => hback.observations hR steps, hidle, ?_⟩
  · rw [← glimpses_session D _ moment moment.session.cleared]
    exact hbegin.glimpses hR hreload
  · intro image
    simp [Lifecycle.submit, hidle, Except.isOk, Except.toBool]

/-- A device that takes a while for every answer, reports each time an output one higher, knows no
slot, and approves of every image. -/
def slowDevice : DeviceModel Nat where
  fetch n := (⟨3, .ok ⟨none, some true, none, some (.ofNat n)⟩⟩, n + 1)
  call x n :=
    (⟨2, match x with
      | .loadManual => .ok (⟨some 40, none⟩ : ManualReport)
      | .loadAuto => .ok (⟨some 18, some 25, none⟩ : AutoReport)
      | .loadSlot id => .error (.noSlot id)
      | .queryVerdict => .ok (⟨.complete, ⟨"Jan 1", "00:00"⟩⟩ : UpdateReport)
      | .wifiStatus => .ok Wifi.Status.idle
      | .saveManual _ | .saveAuto _ | .saveSlot _ | .eraseSlot _ | .connectWifi _ => .ok ()⟩, n)
  upload _ n := (⟨[⟨4, ⟨1, some 1⟩⟩], 4, .ok ()⟩, n)

/-- A session that has polled, been edited and saved before it updates its device shows none of it
afterwards. -/
theorem reload_fresh_afterEdits :
    let c : Configuration :=
      { Configuration.default with pollIntervalMs := 5, countdown := 2, tickMs := 10 }
    let w := (fresh c 0 0).after slowDevice [.command .start, .wait 7,
      .command (.editManual ⟨"77"⟩), .command .saveManual, .command (.selectPanel .auto)]
    (w.perform slowDevice (updateFirmware [⟨"fw.bin", [1]⟩])).2 = .ok .succeeded ∧
      w.session.view.manualForm = ⟨"77"⟩ ∧
      (w.perform slowDevice (updateFirmware [⟨"fw.bin", [1]⟩])).1.session.view =
        ((fresh c (w.update slowDevice [⟨"fw.bin", [1]⟩]).1.now
          (w.update slowDevice [⟨"fw.bin", [1]⟩]).1.device).perform slowDevice start).1.session.view :=
  have hsucceeded := rfl
  ⟨hsucceeded, rfl,
    (reload_fresh slowDevice.sameAnswers_self _ 0 0 _ _ hsucceeded _ rfl).2.2.1⟩

end Timeline

end FanControl
