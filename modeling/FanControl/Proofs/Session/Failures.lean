import FanControl.Proofs.Session.Course
import FanControl.Proofs.Session.Operations
import FanControl.Proofs.Session.Writes

/-!
# What a failed command leaves behind

A command that fails has got somewhere before it failed: a panel has been noted as busy, an update
has gone through some of its phases, the form of a slot was about to be cleared. None of this is to
be seen in the end. **A command that fails leaves the session as it was**, but for what it says
about the failure, `SessionCommand.complaints`: a notice on the panel that it acts on, the notice
about the mode if a mode was to be applied, and the message of an update together with what the
device told of its firmware. Status reports that come in meanwhile are shown as ever.

The phase of an update is another one only if the update has been broken off or rejected, which is
not the operator's doing. Then the update has failed, and its message says so.

Beginning to poll does not fail. It reads all three panels, whatever becomes of the others, and each
of the answers concerns the form of its own panel.

## Main results

* `Session.fails_of_call`: an operation that fails when its one call does;
* `Session.updateFirmware_fails`: an update;
* `Session.start_course`: beginning to poll;
* `SessionCommand.failure_leaves`: what a command that fails leaves, and what beginning to poll
  does.
-/

namespace FanControl

/-! ### What is said about a failure -/

/-- The notice on a panel that could not be saved. -/
def Mode.saveFailure : Mode → Notice
  | manual => .pwmFailed
  | auto | scheduled => .saveFailed

/-- **A session after some remarks**, with status reports that have come in meanwhile. -/
structure Session.Remarked (s t : Session) (reports : List Status)
    (remarks : List DashboardMove) : Prop where
  still : t.still = s.still
  dashboard : t.dashboard = (s.dashboard.applyStatuses reports).after remarks

namespace SessionCommand

/-- Whether the failure of a command breaks off an update that was going on. -/
def breaksOff (e : Failure) : SessionCommand → Bool
  | updateFirmware _ => !e.isInput
  | _ => false

/-- **What a command that fails says about it** by the end, given the session that it found, the
answers to its calls and the failure. -/
def complaints (s : Session) (answers : List AnsweredCall) (e : Failure) :
    SessionCommand → List DashboardMove
  | saveManual => [.notify .manual .pwmFailed]
  | saveAuto => [.notify .auto .saveFailed]
  | loadSlot => [.notify .scheduled .slotMissing]
  | saveSlot => [.notify .scheduled .saveFailed]
  | eraseSlot => [.notify .scheduled .eraseFailed]
  | applyMode =>
    match s.dashboard.panel.visible with
    | none => [.notifyMode .selectModeFirst]
    | some panel => [.notifyMode (.applyingMode panel), .notify panel panel.saveFailure]
  | updateFirmware _ =>
    match e with
    | .input cause => [.updateMessage cause.message]
    | _ =>
      ((answers.filterMap AnsweredCall.report?).getLast?.toList.map fun r =>
        .event (.firmwareInfo r.firmware)) ++ [.event .uploadFailed]
  | start | stop | selectPanel _ | selectSlot _ | editManual _ | editAuto _ | editSlot _
  | loadManual | loadAuto | resetUpdate | connectWifi .. | wifiStatus => []

/-- Nothing that is said about a failure is said about the mode of the device or about what was
measured. -/
theorem isRemark_complaints (x : SessionCommand) (s : Session) (answers : List AnsweredCall)
    (e : Failure) : ∀ m ∈ x.complaints s answers e, m.isRemark = true := by
  intro m hm
  cases x with
  | applyMode =>
      simp only [complaints] at hm
      split at hm
      · obtain rfl := List.mem_singleton.mp hm
        rfl
      · rcases List.mem_cons.mp hm with rfl | hm
        · rfl
        · obtain rfl := List.mem_singleton.mp hm
          rfl
  | updateFirmware files =>
      simp only [complaints] at hm
      split at hm
      · obtain rfl := List.mem_singleton.mp hm
        rfl
      · rcases List.mem_append.mp hm with hm | hm
        · obtain ⟨r, -, rfl⟩ := List.mem_map.mp hm
          rfl
        · obtain rfl := List.mem_singleton.mp hm
          rfl
  | saveManual | saveAuto | loadSlot | saveSlot | eraseSlot =>
      obtain rfl := List.mem_singleton.mp hm
      rfl
  | _ => cases hm

/-- An update that is broken off says so last. -/
theorem updateMessage_complaints {x : SessionCommand} {e : Failure} (hx : x.breaksOff e = true)
    (s : Session) (answers : List AnsweredCall) (d : Dashboard) :
    (d.after (x.complaints s answers e)).updateMessage =
      some UpdateEvent.uploadFailed.text := by
  cases x with
  | updateFirmware files =>
      cases e with
      | input cause => cases hx
      | _ =>
          simp only [complaints]
          rw [Dashboard.after_append]
          rfl
  | _ => cases hx

/-- **A session is after a failure what it was before**, but for what is said about it, and for
status reports that have come in meanwhile. -/
structure FailsCleanly (x : SessionCommand) (s t : Session) (answers : List AnsweredCall)
    (reports : List Status) (e : Failure) : Prop where
  configuration : t.configuration = s.configuration
  manualForm : t.manualForm = s.manualForm
  autoForm : t.autoForm = s.autoForm
  slotForm : t.slotForm = s.slotForm
  selectedSlot : t.selectedSlot = s.selectedSlot
  /-- The mode of the device and what was measured are as the reports have left them. -/
  reported : t.dashboard.reported = (s.dashboard.applyStatuses reports).reported
  /-- The panel on screen is as the reports have left it. -/
  panel : t.dashboard.panel = (s.dashboard.applyStatuses reports).panel
  dashboard : t.dashboard =
    (s.dashboard.applyStatuses reports).after (x.complaints s answers e)
  lifecycle : x.breaksOff e = false → t.lifecycle = s.lifecycle
  /-- An update that was broken off has failed, and says so. -/
  failed : x.breaksOff e = true → t.lifecycle.phase = .failed ∧
    t.dashboard.updateMessage = some UpdateEvent.uploadFailed.text

namespace FailsCleanly

variable {x : SessionCommand} {s t u : Session} {answers : List AnsweredCall}
  {reports : List Status} {e : Failure}

/-- A failure is clean if what is still, what is shown and the state of the update are as they
should be. -/
theorem of_still {l : Lifecycle} (hstill : t.still = { s.still with lifecycle := l })
    (hdashboard : t.dashboard =
      (s.dashboard.applyStatuses reports).after (x.complaints s answers e))
    (hlifecycle : x.breaksOff e = false → l = s.lifecycle)
    (hfailed : x.breaksOff e = true → l.phase = .failed) :
    x.FailsCleanly s t answers reports e := by
  obtain ⟨hpanel, hreported⟩ := Dashboard.after_remarks (x.isRemark_complaints s answers e)
    (s.dashboard.applyStatuses reports)
  have hall {β : Type} (f : Session → β) := congrArg f hstill
  have hl : t.lifecycle = l := hall Session.lifecycle
  refine {
    configuration := hall Session.configuration
    manualForm := hall Session.manualForm
    autoForm := hall Session.autoForm
    slotForm := hall Session.slotForm
    selectedSlot := hall Session.selectedSlot
    reported := (congrArg Dashboard.reported hdashboard).trans hreported
    panel := (congrArg Dashboard.panel hdashboard).trans hpanel
    dashboard := hdashboard
    lifecycle := fun hx => hl.trans (hlifecycle hx)
    failed := fun hx => ⟨(congrArg Lifecycle.phase hl).trans (hfailed hx), ?_⟩ }
  rw [hdashboard]
  exact updateMessage_complaints hx s answers _

/-- A command that does not break off an update fails cleanly if it leaves only remarks. -/
theorem of_remarked (hx : x.breaksOff e = false)
    (h : s.Remarked t reports (x.complaints s answers e)) :
    x.FailsCleanly s t answers reports e :=
  of_still (l := s.lifecycle) h.still h.dashboard (fun _ => rfl) fun hbroken => by
    rw [hx] at hbroken
    cases hbroken

/-- After a failure nothing of what is still has changed but the state of the update. -/
theorem still (h : x.FailsCleanly s t answers reports e) :
    t.still = { s.still with lifecycle := t.lifecycle } := by
  simp only [Session.still, h.configuration, h.manualForm, h.autoForm, h.slotForm, h.selectedSlot]

/-- Polling goes on after a failure. -/
theorem meanwhile {late : List Status} (h : x.FailsCleanly s t answers reports e)
    (hmeanwhile : t.Meanwhile u late) : x.FailsCleanly s u answers (reports ++ late) e := by
  refine of_still (hmeanwhile.still.trans h.still) ?_ h.lifecycle fun hx => (h.failed hx).1
  rw [hmeanwhile.dashboard, h.dashboard, Dashboard.applyStatuses_append,
    Dashboard.applyStatuses_after (x.isRemark_complaints s answers e)]

end FailsCleanly

end SessionCommand

/-! ### Operations that fail -/

namespace Session

open SessionCommand

variable {s t : Session} {answers : List AnsweredCall} {reports : List Status} {e : Failure}

/-- A session whose dashboard has made some moves. -/
def note (s : Session) (moves : List DashboardMove) : Session :=
  { s with dashboard := s.dashboard.after moves }

/-- **An operation that fails when its one call does** leaves the remarks that it makes before the
call and after it. -/
theorem fails_of_call {α : Type} (c : Call) (early late : List DashboardMove)
    {resume : Except Failure c.Answer → Session → Suspended (Except Failure α)}
    (hearly : ∀ m ∈ early, m.isRemark = true)
    (hok : ∀ x t, ∃ t' a, resume (.ok x) t = .done t' (.ok a))
    (herror : ∀ e t, resume (.error e) t = .done (t.note late) (.error e))
    (h : (Suspended.call c (s.note early) resume).Course answers reports t (.error e)) :
    s.Remarked t reports (early ++ late) := by
  have hlast (answer : Except Failure c.Answer) (t : Session) :
      ∃ t' a', resume answer t = .done t' a' := by
    cases answer with
    | ok x =>
        obtain ⟨t', a, hdone⟩ := hok x t
        exact ⟨t', _, hdone⟩
    | error e => exact ⟨_, _, herror e t⟩
  obtain ⟨answer, v, -, hmeanwhile, hdone⟩ := h.of_last_call hlast
  cases answer with
  | ok x =>
      obtain ⟨t', a, hdone'⟩ := hok x v
      cases hdone.symm.trans hdone'
  | error e' =>
      obtain ⟨rfl, -⟩ := Suspended.done.inj (hdone.symm.trans (herror e' v))
      refine ⟨hmeanwhile.still, ?_⟩
      rw [Dashboard.after_append, ← Dashboard.applyStatuses_after hearly]
      exact congrArg (Dashboard.after · late) hmeanwhile.dashboard

/-- The moves of a list with one remark are remarks. -/
theorem remark {m : DashboardMove} (hm : m.isRemark = true) : ∀ m' ∈ [m], m'.isRemark = true :=
  List.forall_mem_singleton.mpr hm

/-- A notice takes the place of the one before it. -/
theorem after_notify_notify (d : Dashboard) (panel : Mode) (first second : Notice) :
    d.after [.notify panel first, .notify panel second] = d.after [.notify panel second] := by
  cases panel <;> rfl

/-- **An operation that notes on a panel that it is busy** and then what became of it leaves a
remark about its failure only. -/
theorem fails_of_noted_call {α : Type} (c : Call) {panel : Mode} (busy : Notice) {failed : Notice}
    {resume : Except Failure c.Answer → Session → Suspended (Except Failure α)}
    (hok : ∀ x t, ∃ t' a, resume (.ok x) t = .done t' (.ok a))
    (herror : ∀ e t, resume (.error e) t = .done (t.note [.notify panel failed]) (.error e))
    (h : (Suspended.call c (s.note [.notify panel busy]) resume).Course answers reports t
      (.error e)) :
    s.Remarked t reports [.notify panel failed] := by
  obtain ⟨hstill, hdashboard⟩ := fails_of_call c _ _ (remark rfl) hok herror h
  exact ⟨hstill, hdashboard.trans (after_notify_notify _ panel busy failed)⟩

theorem saveManual_fails (h : (saveManual s).Course answers reports t (.error e)) :
    s.Remarked t reports [.notify .manual .pwmFailed] :=
  fails_of_noted_call (s.save .manual) .saving (fun _ _ => ⟨_, _, rfl⟩) (fun _ _ => rfl) h

theorem saveAuto_fails (h : (saveAuto s).Course answers reports t (.error e)) :
    s.Remarked t reports [.notify .auto .saveFailed] :=
  fails_of_noted_call (s.save .auto) .saving (fun _ _ => ⟨_, _, rfl⟩) (fun _ _ => rfl) h

theorem saveSlot_fails (h : (saveSlot s).Course answers reports t (.error e)) :
    s.Remarked t reports [.notify .scheduled .saveFailed] :=
  fails_of_noted_call (s.save .scheduled) .saving (fun _ _ => ⟨_, _, rfl⟩) (fun _ _ => rfl) h

theorem eraseSlot_fails (h : (eraseSlot s).Course answers reports t (.error e)) :
    s.Remarked t reports [.notify .scheduled .eraseFailed] :=
  fails_of_noted_call (.eraseSlot s.selectedSlot) .erasing (fun _ _ => ⟨_, _, rfl⟩)
    (fun _ _ => rfl) h

theorem connectWifi_fails {ssid password : String} {timestamp : Int64}
    (h : (connectWifi ssid password timestamp s).Course answers reports t (.error e)) :
    s.Remarked t reports [] := by
  rw [connectWifi] at h
  split at h
  · obtain ⟨-, rfl, rfl, -⟩ := h.of_done
    exact ⟨rfl, rfl⟩
  · split at h
    · obtain ⟨-, rfl, rfl, -⟩ := h.of_done
      exact ⟨rfl, rfl⟩
    · exact fails_of_call (.connectWifi ⟨ssid, password, timestamp⟩) [] []
        (fun _ hm => absurd hm List.not_mem_nil) (fun _ _ => ⟨_, _, rfl⟩) (fun _ _ => rfl) h

theorem wifiStatus_fails (h : (wifiStatus s).Course answers reports t (.error e)) :
    s.Remarked t reports [] :=
  fails_of_call .wifiStatus [] [] (fun _ hm => absurd hm List.not_mem_nil)
    (fun _ _ => ⟨_, _, rfl⟩) (fun _ _ => rfl) h

/-- A mode whose panel cannot be saved is not applied, which leaves two remarks. -/
theorem fails_of_saved {α : Type} {panel : Mode} {p : Suspended (Except Failure α)}
    (hsave : ∀ answers reports t e, p.Course answers reports t (.error e) →
      (s.note [.notifyMode (.applyingMode panel)]).Remarked t reports
        [.notify panel panel.saveFailure])
    (h : (p.bind fun a t => .done t (withResult panel a)).Course answers reports t (.error e)) :
    s.Remarked t reports
      [.notifyMode (.applyingMode panel), .notify panel panel.saveFailure] := by
  obtain ⟨a, v, first, rest, early, late, rfl, rfl, hp, hdone⟩ := h.of_bind
  obtain ⟨-, rfl, rfl, hresult⟩ := hdone.of_done
  cases a with
  | ok a => cases hresult
  | error e' =>
      obtain ⟨hstill, hdashboard⟩ := hsave _ _ _ _ hp
      refine ⟨hstill, ?_⟩
      rw [hdashboard, List.append_nil, note, Dashboard.applyStatuses_after (remark rfl),
        ← Dashboard.after_append]
      rfl

/-- A mode that cannot be applied: no panel is on screen, or the one that is cannot be saved. -/
theorem applyMode_fails (h : (applyMode s).Course answers reports t (.error e)) :
    s.Remarked t reports (SessionCommand.applyMode.complaints s answers e) := by
  rw [complaints]
  cases hpanel : s.dashboard.panel.visible with
  | none =>
      simp only [applyMode, bind, Operation.get, Suspended.bind, hpanel] at h
      obtain ⟨-, rfl, rfl, -⟩ := h.of_done
      exact ⟨rfl, rfl⟩
  | some panel =>
      simp only [applyMode, bind, Operation.get, Suspended.bind, hpanel] at h
      cases panel with
      | manual => exact fails_of_saved (fun _ _ _ _ hp => saveManual_fails hp) h
      | auto => exact fails_of_saved (fun _ _ _ _ hp => saveAuto_fails hp) h
      | scheduled => exact fails_of_saved (fun _ _ _ _ hp => saveSlot_fails hp) h

/-! ### Loads -/

end Session

/-- The form after an answer about the manual output. -/
def ManualForm.loaded (form : ManualForm) : Except Failure ManualReport → ManualForm
  | .ok report => .ofSetting report.setting
  | .error _ => form

/-- The form after an answer about the band. -/
def AutoForm.loaded (form : AutoForm) : Except Failure AutoReport → AutoForm
  | .ok report => .ofSetting (report.setting form.toSetting)
  | .error _ => form

/-- The form after an answer about a slot. -/
def SlotForm.loaded (form : SlotForm) : Except Failure Slot → SlotForm
  | .ok slot => .ofSlot slot
  | .error _ => form

/-- The notice after an answer about a slot. -/
def Notice.loaded : Except Failure Slot → Notice
  | .ok _ => slotLoaded
  | .error _ => slotMissing

namespace Session

variable {s t : Session} {answers : List AnsweredCall} {reports : List Status}

/-- **Reading a panel is one call**, whose answer is put into the form. A form is put into what is
still, so that nothing gets lost which has happened meanwhile. -/
theorem course_of_load {α : Type} (c : Call)
    {resume : Except Failure c.Answer → Session → Suspended (Except Failure α)}
    {a : Except Failure α} (put : Except Failure c.Answer → Session → Session)
    (said : Except Failure c.Answer → List DashboardMove)
    (hdone : ∀ answer t, ∃ b, resume answer t = .done ((put answer t).note (said answer)) b ∧
      ∀ e, b = .error e → answer = .error e)
    (hstill : ∀ answer t, (put answer t).still = (put answer t.still).still)
    (hdashboard : ∀ answer t, (put answer t).dashboard = t.dashboard)
    (h : (Suspended.call c s resume).Course answers reports t a) :
    ∃ answer, answers = [⟨c, answer⟩] ∧ (∀ e, a = .error e → answer = .error e) ∧
      t.still = (put answer s).still ∧
      t.dashboard = (s.dashboard.applyStatuses reports).after (said answer) := by
  have hlast (answer : Except Failure c.Answer) (t : Session) :
      ∃ t' b, resume answer t = .done t' b := by
    obtain ⟨b, heq, -⟩ := hdone answer t
    exact ⟨_, b, heq⟩
  obtain ⟨answer, v, rfl, hmeanwhile, hend⟩ := h.of_last_call hlast
  obtain ⟨b, heq, hb⟩ := hdone answer v
  obtain ⟨rfl, rfl⟩ := Suspended.done.inj (heq.symm.trans hend)
  refine ⟨answer, rfl, hb, ?_, ?_⟩
  · calc (put answer v).still
        = (put answer s.still).still := by rw [hstill, hmeanwhile.still]
      _ = (put answer s).still := (hstill answer s).symm
  · change (put answer v).dashboard.after (said answer) = _
    rw [hdashboard, hmeanwhile.dashboard]

/-- The answer to a reading of the manual panel concerns the form of that panel. -/
theorem loadManual_course {a : Except Failure ManualSetting}
    (h : (loadManual s).Course answers reports t a) :
    ∃ answer, answers = [⟨.loadManual, answer⟩] ∧ (∀ e, a = .error e → answer = .error e) ∧
      t.still = { s.still with manualForm := s.manualForm.loaded answer } ∧
      t.dashboard = s.dashboard.applyStatuses reports := by
  refine course_of_load .loadManual
    (fun answer t => { t with manualForm := t.manualForm.loaded answer }) (fun _ => []) ?_
    (fun _ _ => rfl) (fun _ _ => rfl) h
  intro answer t
  cases answer with
  | ok report => exact ⟨_, rfl, fun _ he => by cases he⟩
  | error e => exact ⟨_, rfl, fun _ he => by cases he; rfl⟩

/-- The answer to a reading of the automatic panel concerns the form of that panel. A bound that the
answer leaves out is the one that the form stood for. -/
theorem loadAuto_course {a : Except Failure AutoSetting}
    (h : (loadAuto s).Course answers reports t a) :
    ∃ answer, answers = [⟨.loadAuto, answer⟩] ∧ (∀ e, a = .error e → answer = .error e) ∧
      t.still = { s.still with autoForm := s.autoForm.loaded answer } ∧
      t.dashboard = s.dashboard.applyStatuses reports := by
  obtain ⟨answer, hcall, hanswer, hstill, hdashboard⟩ := course_of_load .loadAuto
    (fun answer t => { t with autoForm := match answer with
      | .ok report => .ofSetting (report.setting s.autoForm.toSetting)
      | .error _ => t.autoForm })
    (fun _ => []) (fun answer t => by
      cases answer with
      | ok report => exact ⟨_, rfl, fun _ he => by cases he⟩
      | error e => exact ⟨_, rfl, fun _ he => by cases he; rfl⟩)
    (fun _ _ => rfl) (fun _ _ => rfl) h
  refine ⟨answer, hcall, hanswer, hstill.trans ?_, hdashboard⟩
  cases answer <;> rfl

/-- **Reading the schedule panel** asks for the selected slot and says whether it is there. -/
theorem loadSlot_course {a : Except Failure Slot} (h : (loadSlot s).Course answers reports t a) :
    ∃ answer, answers = [⟨.loadSlot s.selectedSlot, answer⟩] ∧
      (∀ e, a = .error e → answer = .error e) ∧
      t.still = { s.still with slotForm := s.slotForm.loaded answer } ∧
      t.dashboard = (s.dashboard.applyStatuses reports).after
        [.notify .scheduled (.loaded answer)] := by
  obtain ⟨answer, hcall, hanswer, hstill, hdashboard⟩ := course_of_load (.loadSlot s.selectedSlot)
    (fun answer t => { t with slotForm := t.slotForm.loaded answer })
    (fun answer => [.notify .scheduled (.loaded answer)]) (fun answer t => by
      cases answer with
      | ok slot => exact ⟨_, rfl, fun _ he => by cases he⟩
      | error e => exact ⟨_, rfl, fun _ he => by cases he; rfl⟩)
    (fun _ _ => rfl) (fun _ _ => rfl) h
  refine ⟨answer, hcall, hanswer, hstill, hdashboard.trans ?_⟩
  change ((s.dashboard.after [.notify .scheduled .reading]).applyStatuses reports).after _ = _
  rw [Dashboard.applyStatuses_after (remark rfl), ← Dashboard.after_append]
  exact after_notify_notify _ _ _ _

/-- **Beginning to poll reads all three panels**, whatever becomes of the others. Each answer
concerns the form of its own panel, which it fills if it is good and leaves alone if it is not. -/
theorem start_course (h : (start s).Course answers reports t ()) :
    ∃ manual auto slot,
      answers = [⟨.loadManual, manual⟩, ⟨.loadAuto, auto⟩, ⟨.loadSlot s.selectedSlot, slot⟩] ∧
      t.still = { s.still with
        manualForm := s.manualForm.loaded manual
        autoForm := s.autoForm.loaded auto
        slotForm := s.slotForm.loaded slot } ∧
      t.dashboard = (s.dashboard.applyStatuses reports).after
        [.notify .scheduled (.loaded slot)] := by
  let polling : Session := { s with
    feed := s.feed.unsubscribe.subscribe
    poller := s.poller.stop.start s.configuration.pollIntervalMs.toNat }
  have hstart : start s = (loadManual polling).bind fun _ u => (loadAuto u).bind fun _ v =>
      (loadSlot v).bind fun _ t => .done t () := rfl
  rw [hstart] at h
  obtain ⟨_, u, first, _, early, _, rfl, rfl, hmanual, h⟩ := h.of_bind
  obtain ⟨_, v, second, _, middle, _, rfl, rfl, hauto, h⟩ := h.of_bind
  obtain ⟨_, t', third, _, late, _, rfl, rfl, hslot, h⟩ := h.of_bind
  obtain ⟨rfl, rfl, rfl, -⟩ := h.of_done
  obtain ⟨manual, rfl, -, hu, hu'⟩ := loadManual_course hmanual
  obtain ⟨auto, rfl, -, hv, hv'⟩ := loadAuto_course hauto
  obtain ⟨slot, rfl, -, ht, ht'⟩ := loadSlot_course hslot
  have hu_all {β : Type} (f : Session → β) := congrArg f hu
  have hv_all {β : Type} (f : Session → β) := congrArg f hv
  have hselected : v.selectedSlot = s.selectedSlot :=
    (hv_all Session.selectedSlot).trans (hu_all Session.selectedSlot)
  have hautoForm : u.autoForm = s.autoForm := hu_all Session.autoForm
  have hslotForm : v.slotForm = s.slotForm :=
    (hv_all Session.slotForm).trans (hu_all Session.slotForm)
  refine ⟨manual, auto, slot, ?_, ?_, ?_⟩
  · rw [hselected]
    rfl
  · rw [ht, hv, hu, hautoForm, hslotForm]
    rfl
  · rw [ht', hv', hu', List.append_nil, Dashboard.applyStatuses_append,
      Dashboard.applyStatuses_append]

/-- **Whatever the device answers, beginning to poll goes on to the end.** -/
theorem exists_start_course (s : Session) (manual : Except Failure ManualReport)
    (auto : Except Failure AutoReport) (slot : Except Failure Slot) :
    ∃ t, (start s).Course
      [⟨.loadManual, manual⟩, ⟨.loadAuto, auto⟩, ⟨.loadSlot s.selectedSlot, slot⟩] [] t () := by
  cases manual <;> cases auto <;> cases slot <;>
    exact ⟨_, .call _ (.refl _) (.call _ (.refl _) (.call _ (.refl _) (.done _ _)))⟩

/-! ### Updates that fail -/

/-- Reports tell of the firmware that the last of them was about. -/
theorem after_firmwareInfos (d : Dashboard) (reports : List UpdateReport) :
    d.after (reports.map fun r => .event (.firmwareInfo r.firmware)) =
      { d with firmware := (reports.getLast?.map (·.firmware.text)).or d.firmware } := by
  induction reports generalizing d with
  | nil => rfl
  | cons r reports ih =>
      rw [List.map_cons, Dashboard.after_cons, ih, List.getLast?_cons]
      cases reports.getLast? <;> rfl

/-- Of what an update tells of its answers and of its failure, the last firmware and the failure
stay. -/
theorem after_told (d : Dashboard) (answers : List (Except Failure UpdateReport)) :
    d.after ((told answers ++ [UpdateEvent.uploadFailed]).map .event) =
      d.after (((answered answers).getLast?.toList.map fun r =>
        .event (.firmwareInfo r.firmware)) ++ [.event .uploadFailed]) := by
  have hinfos : (answered answers).map (DashboardMove.event ∘ fun r => .firmwareInfo r.firmware) =
      (answered answers).map fun r => .event (.firmwareInfo r.firmware) := rfl
  rw [told, List.cons_append, List.map_cons, Dashboard.after_cons, List.map_append, List.map_map,
    hinfos, Dashboard.after_append, Dashboard.after_append, after_firmwareInfos,
    after_firmwareInfos]
  cases (answered answers).getLast? <;> rfl

/-- The reports among the answers to the queries are those that an update has been given. -/
theorem filterMap_report? (answers : List (Except Failure UpdateReport)) :
    (answers.map fun answer => (⟨.queryVerdict, answer⟩ : AnsweredCall)).filterMap
      AnsweredCall.report? = answered answers := by
  induction answers with
  | nil => rfl
  | cons answer answers ih =>
      cases answer with
      | error e => exact ih
      | ok report => exact congrArg (report :: ·) ih

variable {files : List FirmwareImage} {e : Failure}

/-- A failure that is not the operator's is told of after all reports. -/
theorem complaints_updateFirmware (he : e.isInput = false) (s : Session)
    (answers : List AnsweredCall) :
    (SessionCommand.updateFirmware files).complaints s answers e =
      ((answers.filterMap AnsweredCall.report?).getLast?.toList.map fun r =>
        .event (.firmwareInfo r.firmware)) ++ [.event .uploadFailed] := by
  cases e with
  | input cause => cases he
  | _ => rfl

/-- **An update that fails.** If the operator's input is to blame, it has not begun; else it has
failed, and says so. -/
theorem updateFirmware_fails (h : (updateFirmware files s).Course answers reports t (.error e)) :
    (SessionCommand.updateFirmware files).FailsCleanly s t answers reports e := by
  cases h with
  | @update _ _ v _ _ _ early late _ _ _ _ _ r l result run finished blameless still shown rest =>
      rcases UpdateRun.result_cases run finished with
        ⟨cause, rfl, rfl, hanswers, hevents, -⟩ | ⟨hresult, hphase, hevents, hsent⟩ | rfl | rfl
      · obtain ⟨rfl, rfl, rfl, he⟩ := rest.of_done
        obtain rfl := Except.error.inj he
        rw [hevents] at shown
        rw [List.append_nil early]
        exact .of_remarked rfl
          ⟨still, congrArg (Dashboard.setUpdateMessage · cause.message) shown⟩
      · have hbroken (he : e.isInput = false) : (SessionCommand.updateFirmware files).FailsCleanly
            s v (r.answers.map fun answer => ⟨.queryVerdict, answer⟩) early e := by
          refine .of_still still ?_ (fun hx => ?_) fun _ => hphase
          · rw [shown, hevents, after_told, complaints_updateFirmware he, filterMap_report?]
          · rw [SessionCommand.breaksOff, he] at hx
            cases hx
        rcases hresult with ⟨e', rfl⟩ | rfl
        · cases e' with
          | input cause => exact absurd (blameless _ rfl rfl) hsent
          | _ =>
              obtain ⟨rfl, rfl, rfl, he⟩ := rest.of_done
              obtain rfl := Except.error.inj he
              rw [List.append_nil, List.append_nil]
              exact hbroken rfl
        · obtain ⟨rfl, rfl, rfl, he⟩ := rest.of_done
          obtain rfl := Except.error.inj he
          rw [List.append_nil, List.append_nil]
          exact hbroken rfl
      · obtain ⟨_, _, _, _, _, _, rfl, rfl, -, hdone⟩ :=
          Suspended.Course.of_bind (p := reload v)
            (f := fun _ t => .done t (Except.ok UpdatePhase.succeeded)) rest
        cases hdone.of_done.2.2.2
      · cases rest.of_done.2.2.2

end Session

/-! ### Commands that fail -/

namespace SessionCommand

open Session

variable {x : SessionCommand} {s t : Session} {answers : List AnsweredCall}
  {reports : List Status} {e : Failure}

/-- **A command that fails leaves the session as it was.** -/
theorem fails_of_course {a : x.Result} (h : (x.operation s).Course answers reports t a)
    (he : x.failure? a = some e) : x.FailsCleanly s t answers reports e := by
  cases x with
  | start | stop | selectPanel | selectSlot | editManual | editAuto | editSlot | resetUpdate =>
      cases he
  | loadManual =>
      match a with
      | .error e' =>
        obtain ⟨answer, rfl, hanswer, hstill, hdashboard⟩ := loadManual_course h
        obtain rfl := hanswer _ rfl
        exact .of_remarked rfl ⟨hstill, hdashboard⟩
  | loadAuto =>
      match a with
      | .error e' =>
        obtain ⟨answer, rfl, hanswer, hstill, hdashboard⟩ := loadAuto_course h
        obtain rfl := hanswer _ rfl
        exact .of_remarked rfl ⟨hstill, hdashboard⟩
  | loadSlot =>
      match a with
      | .error e' =>
        obtain ⟨answer, rfl, hanswer, hstill, hdashboard⟩ := loadSlot_course h
        obtain rfl := hanswer _ rfl
        exact .of_remarked rfl ⟨hstill, hdashboard⟩
  | saveManual =>
      match a with
      | .error _ => exact .of_remarked rfl (saveManual_fails h)
  | saveAuto =>
      match a with
      | .error _ => exact .of_remarked rfl (saveAuto_fails h)
  | saveSlot =>
      match a with
      | .error _ => exact .of_remarked rfl (saveSlot_fails h)
  | eraseSlot =>
      match a with
      | .error _ => exact .of_remarked rfl (eraseSlot_fails h)
  | applyMode =>
      match a with
      | .error e' =>
        obtain rfl := Option.some.inj he
        exact .of_remarked rfl (applyMode_fails h)
  | connectWifi ssid password timestamp =>
      match a with
      | .error _ => exact .of_remarked rfl (connectWifi_fails h)
  | wifiStatus =>
      match a with
      | .error _ => exact .of_remarked rfl (wifiStatus_fails h)
  | updateFirmware files =>
      match a with
      | .error e' =>
        obtain rfl := Option.some.inj he
        exact updateFirmware_fails h

/-- **What a command that fails leaves behind**, whatever the device has answered and whatever
polling has done meanwhile: the configuration, the three forms and the selected slot as they were,
the mode and the panel on screen as the reports have left them, and on the dashboard nothing else
but the complaints. The update stands where it stood, unless it was the update that failed and not
for the operator's input: then it has failed, and says so.

Beginning to poll attempts all three loads whatever the device answers, and each answer concerns its
own form only.

So it is against a clock with any device that does not blame the operator for a failed upload, among
them every device that is reached over a link. -/
theorem failure_leaves :
    (∀ (x : SessionCommand) (s t : Session) (answers : List AnsweredCall) (reports : List Status)
      (a : x.Result) (e : Failure), (x.operation s).Course answers reports t a →
        x.failure? a = some e → x.FailsCleanly s t answers reports e) ∧
    (∀ (s t : Session) (answers : List AnsweredCall) (reports : List Status),
      (Session.start s).Course answers reports t () → ∃ manual auto slot,
        answers = [⟨.loadManual, manual⟩, ⟨.loadAuto, auto⟩, ⟨.loadSlot s.selectedSlot, slot⟩] ∧
        t.still = { s.still with
          manualForm := s.manualForm.loaded manual
          autoForm := s.autoForm.loaded auto
          slotForm := s.slotForm.loaded slot } ∧
        t.dashboard = (s.dashboard.applyStatuses reports).after
          [.notify .scheduled (.loaded slot)]) ∧
    (∀ (s : Session) (manual : Except Failure ManualReport) (auto : Except Failure AutoReport)
      (slot : Except Failure Slot), ∃ t, (Session.start s).Course
        [⟨.loadManual, manual⟩, ⟨.loadAuto, auto⟩, ⟨.loadSlot s.selectedSlot, slot⟩] [] t ()) ∧
    (∀ {σ : Type} (D : DeviceModel σ), D.Blameless → ∀ (w : Timeline σ) (x : SessionCommand),
      ∃ answers reports, (∃ t early late, reports = early ++ late ∧
          (x.operation w.session).Course answers early t (w.perform D x.operation).2 ∧
          t.Meanwhile (w.perform D x.operation).1.session late) ∧
        ∀ e, x.failure? (w.perform D x.operation).2 = some e →
          x.FailsCleanly w.session (w.perform D x.operation).1.session answers reports e) ∧
    ∀ {σ : Type} (client : Client) (link : Link σ), (client.model link).Blameless := by
  refine ⟨fun x s t answers reports a e h he => fails_of_course h he,
    fun s t answers reports h => start_course h, exists_start_course, ?_,
    fun client link => client.model_blameless link⟩
  intro σ D hD w x
  obtain ⟨answers, early, hcourse⟩ := w.runSuspended_course D hD (x.operation w.session)
  obtain ⟨late, hsettled⟩ := Timeline.exists_meanwhile_background D
    ((w.runSuspended D (x.operation w.session)).1.now + 1) 2
    (w.runSuspended D (x.operation w.session)).1
  refine ⟨answers, early ++ late, ⟨_, early, late, rfl, hcourse, hsettled⟩, ?_⟩
  intro e he
  exact (fails_of_course hcourse he).meanwhile hsettled

/-- An update that is broken off has told of the firmware that the device was asked about, and of
the failure. The forms are what they were, and the report that came in meanwhile is shown. -/
theorem failure_leaves_brokenOff :
    let s := { Session.new .default with
      manualForm := ⟨"77"⟩, slotForm := { SlotForm.empty with active := true } }
    let files : List FirmwareImage := [⟨"fw.bin", [1]⟩]
    let report : Status := ⟨none, none, some (.known .manual), none⟩
    let e := Failure.refused Route.upload.path 503
    ∃ t answers, (Session.updateFirmware files s).Course answers [report] t (.error e) ∧
      t.manualForm = ⟨"77"⟩ ∧ t.slotForm.active = true ∧ t.lifecycle.phase = .failed ∧
      t.dashboard = { Dashboard.empty.applyStatus report with
        updateMessage := some "!!! Upload Error !!!", firmware := some "Jan 1 - 00:00" } := by
  intro s files report e
  have hrun : ((UpdateRun.start 0 s.lifecycle files []).run 1
      [.finish (.error e), .answer (.ok ⟨.pending, "Jan 1", "00:00"⟩), .close]).isSome = true := rfl
  obtain ⟨r, hr⟩ := Option.isSome_iff_exists.mp hrun
  let t : Session := { s with
    lifecycle := r.turn.lifecycle
    dashboard := (s.dashboard.applyStatuses [report]).after (r.events.map .event) }
  have hcourse : (Session.updateFirmware files s).Course
      [⟨.queryVerdict, .ok (⟨.pending, "Jan 1", "00:00"⟩ : UpdateReport)⟩] [report] t
      (.error e) := by
    have hdashboard : t.dashboard =
        (s.dashboard.applyStatuses [report]).after (r.events.map .event) := rfl
    obtain rfl := Option.some.inj hr
    refine .update hr rfl ?_ rfl hdashboard (.done t _)
    rintro _ ⟨⟩ ⟨⟩
  have hfails := failure_leaves.1 (.updateFirmware files) s t _ _ _ e hcourse rfl
  exact ⟨t, _, hcourse, hfails.manualForm, congrArg SlotForm.active hfails.slotForm,
    (hfails.failed rfl).1, hfails.dashboard⟩

end SessionCommand

end FanControl
