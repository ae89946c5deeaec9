import FanControl.Dashboard.History
import FanControl.Proofs.Session.PollSchedule
import FanControl.Proofs.Session.Rounds
import FanControl.Session.Client

/-!
# Courses of an operation

`Suspended.Ends` says what an operation can leave behind if polling does anything at all in its
waits. It does not say **what the device answered**, nor what is left of the dashboard, which
polling works on too. A `Suspended.Course` says both. It goes along one way through an operation and
holds the calls that were made on it with their answers, and the status reports that came in
between.

Reports and remarks do not touch each other on a dashboard: what a report writes is written nowhere
else but by reports and by the operator, who is waiting. So it does not matter at which of the waits
a report came in, and a course needs to remember only which ones came.

A device does not know what the operator has put in. If an update fails because of the input, then
nothing was sent; a device like this is `DeviceModel.Blameless`, and every device that is reached
over a link is. None of its answers to a call blames the input either.

## Main results

* `Dashboard.applyStatuses_after`: remarks and reports in any order;
* `Suspended.Course.of_bind`: the course of one operation after another;
* `UpdateRun.result_cases`: what becomes of an update that fails;
* `Timeline.runSuspended_course`: an operation against the clock takes a course;
* `Client.isInput_of_call`, `Client.model_blameless`: devices that are reached over a link.
-/

namespace FanControl

/-! ### Reports and remarks -/

/-- Whether a move says something about what was done, and nothing about the mode or about what was
measured. -/
def DashboardMove.isRemark : DashboardMove → Bool
  | report _ | selectPanel _ => false
  | notify .. | notifyMode _ | event _ | updateMessage _ => true

namespace Dashboard

/-- The dashboard after some status reports. -/
def applyStatuses (d : Dashboard) (reports : List Status) : Dashboard :=
  reports.foldl applyStatus d

@[simp] theorem applyStatuses_nil (d : Dashboard) : d.applyStatuses [] = d := rfl

/-- Applying some reports after others applies all of them, the others first. -/
theorem applyStatuses_append (d : Dashboard) (early late : List Status) :
    d.applyStatuses (early ++ late) = (d.applyStatuses early).applyStatuses late :=
  List.foldl_append

@[simp] theorem after_nil (d : Dashboard) : d.after [] = d := rfl

@[simp] theorem after_cons (d : Dashboard) (m : DashboardMove) (moves : List DashboardMove) :
    d.after (m :: moves) = (d.apply m).after moves := rfl

/-- Making some moves after others makes all of them, the others first. -/
theorem after_append (d : Dashboard) (early late : List DashboardMove) :
    d.after (early ++ late) = (d.after early).after late :=
  List.foldl_append

/-- A report and a remark do not touch each other. -/
theorem applyStatus_apply {m : DashboardMove} (hm : m.isRemark = true) (d : Dashboard)
    (status : Status) : (d.apply m).applyStatus status = (d.applyStatus status).apply m := by
  cases m with
  | report _ | selectPanel _ => cases hm
  | event e => cases e <;> rfl
  | notify _ _ | notifyMode _ | updateMessage _ => rfl

/-- **Remarks and reports do not touch each other**, in whatever order they come. -/
theorem applyStatuses_after {moves : List DashboardMove}
    (hmoves : ∀ m ∈ moves, m.isRemark = true) (d : Dashboard) (reports : List Status) :
    (d.after moves).applyStatuses reports = (d.applyStatuses reports).after moves := by
  have hmove {m : DashboardMove} (hm : m.isRemark = true) (d : Dashboard) :
      (d.apply m).applyStatuses reports = (d.applyStatuses reports).apply m := by
    induction reports generalizing d with
    | nil => rfl
    | cons status reports ih =>
        change ((d.apply m).applyStatus status).applyStatuses reports = _
        rw [applyStatus_apply hm]
        exact ih _
  induction moves generalizing d with
  | nil => rfl
  | cons m moves ih =>
      obtain ⟨hm, hmoves⟩ := List.forall_mem_cons.mp hmoves
      rw [after_cons, ih hmoves, hmove hm, after_cons]

/-- Remarks leave the panel and all that was reported alone. -/
theorem after_remarks {moves : List DashboardMove} (hmoves : ∀ m ∈ moves, m.isRemark = true)
    (d : Dashboard) :
    (d.after moves).panel = d.panel ∧ (d.after moves).reported = d.reported := by
  have hmove {m : DashboardMove} (hm : m.isRemark = true) (d : Dashboard) :
      (d.apply m).panel = d.panel ∧ (d.apply m).reported = d.reported := by
    cases m with
    | report _ | selectPanel _ => cases hm
    | event e => cases e <;> exact ⟨rfl, rfl⟩
    | notify _ _ | notifyMode _ | updateMessage _ => exact ⟨rfl, rfl⟩
  induction moves generalizing d with
  | nil => exact ⟨rfl, rfl⟩
  | cons m moves ih =>
      obtain ⟨hm, hmoves⟩ := List.forall_mem_cons.mp hmoves
      obtain ⟨hpanel, hreported⟩ := ih hmoves (d.apply m)
      exact ⟨hpanel.trans (hmove hm d).1, hreported.trans (hmove hm d).2⟩

/-- One dashboard comes from another through the events of an update, with some status reports in
between. -/
def Shows (d : Dashboard) (events : List UpdateEvent) (d' : Dashboard) : Prop :=
  ∃ reports, d' = (d.applyStatuses reports).after (events.map .event)

/-- Events are remarks. -/
theorem isRemark_events (events : List UpdateEvent) :
    ∀ m ∈ events.map DashboardMove.event, m.isRemark = true := by
  intro m hm
  obtain ⟨e, -, rfl⟩ := List.mem_map.mp hm
  rfl

/-- A dashboard that applies events shows them, with no report in between. -/
theorem shows_events (d : Dashboard) (events : List UpdateEvent) :
    d.Shows events (events.foldl applyEvent d) := by
  refine ⟨[], ?_⟩
  rw [applyStatuses_nil, after, List.foldl_map]
  rfl

/-- A dashboard that shows some events and then more shows all of them. -/
theorem Shows.trans {d d' d'' : Dashboard} {events more : List UpdateEvent}
    (h : d.Shows events d') (h' : d'.Shows more d'') : d.Shows (events ++ more) d'' := by
  obtain ⟨early, rfl⟩ := h
  obtain ⟨late, rfl⟩ := h'
  refine ⟨early ++ late, ?_⟩
  rw [applyStatuses_after (isRemark_events events), ← applyStatuses_append, ← after_append,
    List.map_append]

end Dashboard

namespace Session

variable {s t u : Session}

/-- **What polling does to a session meanwhile**: the reports that it brings are applied to the
dashboard, and what is still is left alone. -/
structure Meanwhile (s t : Session) (reports : List Status) : Prop where
  still : t.still = s.still
  dashboard : t.dashboard = s.dashboard.applyStatuses reports

theorem Meanwhile.refl (s : Session) : s.Meanwhile s [] := ⟨rfl, rfl⟩

theorem Meanwhile.trans {early late : List Status} (h : s.Meanwhile t early)
    (h' : t.Meanwhile u late) : s.Meanwhile u (early ++ late) where
  still := h'.still.trans h.still
  dashboard := by rw [h'.dashboard, h.dashboard, Dashboard.applyStatuses_append]

/-- No event of an update is shown meanwhile. -/
theorem Meanwhile.shows {reports : List Status} (h : s.Meanwhile t reports) :
    s.dashboard.Shows [] t.dashboard :=
  ⟨reports, h.dashboard⟩

/-- The dashboard catches up with one report at most. -/
theorem exists_meanwhile_reconcile (s : Session) :
    ∃ reports, s.Meanwhile s.reconcile reports := by
  cases hlook : s.feed.take.1 with
  | none => exact ⟨[], s.reconcile_still, by rw [reconcile, ← Prod.eta s.feed.take, hlook]; rfl⟩
  | some status =>
      exact ⟨[status], s.reconcile_still, by rw [reconcile, ← Prod.eta s.feed.take, hlook]; rfl⟩

end Session

/-! ### Courses -/

/-- A call that was made, and how it was answered. -/
structure AnsweredCall where
  call : Call
  answer : Except Failure call.Answer

/-- The report on an update that a call has brought. -/
def AnsweredCall.report? : AnsweredCall → Option UpdateReport
  | ⟨.queryVerdict, .ok report⟩ => some report
  | _ => none

/-- **The course of an operation under way**: the calls that it makes with their answers, the status
reports that come in meanwhile, the session in the end, and what the operation gives. An update may
go as any run of its loop goes. It fails because of the operator's input only if nothing was
sent. -/
inductive Suspended.Course {α : Type} :
    Suspended α → List AnsweredCall → List Status → Session → α → Prop
  | done (s : Session) (a : α) : Course (.done s a) [] [] s a
  | call {c : Call} {s t u : Session} {resume : Except Failure c.Answer → Session → Suspended α}
      {answers : List AnsweredCall} {early late : List Status} {a : α}
      (answer : Except Failure c.Answer) (meanwhile : s.Meanwhile t early)
      (rest : Course (resume answer t) answers late u a) :
      Course (.call c s resume) (⟨c, answer⟩ :: answers) (early ++ late) u a
  | update {files : List FirmwareImage} {s t u : Session}
      {resume : Except Failure UpdatePhase → Session → Suspended α}
      {answers : List AnsweredCall} {early late : List Status} {a : α} {now period : Nat}
      {coming : List UploadProgress} {moves : List UpdateMove} {r : UpdateRun} {l : Lifecycle}
      {result : Except Failure UpdatePhase}
      (run : (UpdateRun.start now s.lifecycle files coming).run period moves = some r)
      (finished : r.turn = .finished l result)
      (blameless : ∀ e, result = .error e → e.isInput = true → r.upload = .unsent)
      (still : t.still = { s.still with lifecycle := l })
      (dashboard : t.dashboard = (s.dashboard.applyStatuses early).after (r.events.map .event))
      (rest : Course (resume result t) answers late u a) :
      Course (.update files s resume)
        (r.answers.map (fun answer => ⟨.queryVerdict, answer⟩) ++ answers) (early ++ late) u a

namespace Suspended.Course

variable {α β : Type} {answers : List AnsweredCall} {reports : List Status} {s u : Session}

/-- An operation that is done stays as it is. -/
theorem of_done {a b : α} (h : (Suspended.done s a).Course answers reports u b) :
    answers = [] ∧ reports = [] ∧ u = s ∧ b = a := by
  cases h
  exact ⟨rfl, rfl, rfl, rfl⟩

/-- A call is answered, and the operation goes on. -/
theorem of_call {c : Call} {resume : Except Failure c.Answer → Session → Suspended α} {a : α}
    (h : (Suspended.call c s resume).Course answers reports u a) :
    ∃ answer t rest early late, answers = ⟨c, answer⟩ :: rest ∧ reports = early ++ late ∧
      s.Meanwhile t early ∧ (resume answer t).Course rest late u a := by
  cases h with
  | call answer meanwhile rest => exact ⟨answer, _, _, _, _, rfl, rfl, meanwhile, rest⟩

/-- An operation that makes one call is done after it. -/
theorem of_last_call {c : Call} {resume : Except Failure c.Answer → Session → Suspended α} {a : α}
    (hlast : ∀ answer t, ∃ t' a', resume answer t = .done t' a')
    (h : (Suspended.call c s resume).Course answers reports u a) :
    ∃ answer t, answers = [⟨c, answer⟩] ∧ s.Meanwhile t reports ∧
      resume answer t = .done u a := by
  obtain ⟨answer, t, rest, early, late, rfl, rfl, hmeanwhile, hrest⟩ := h.of_call
  obtain ⟨t', a', hdone⟩ := hlast answer t
  rw [hdone] at hrest
  obtain ⟨rfl, rfl, rfl, rfl⟩ := hrest.of_done
  exact ⟨answer, t, rfl, (List.append_nil early).symm ▸ hmeanwhile, hdone⟩

/-- **One operation after another** takes the course of the one and then a course of the other. -/
theorem of_bind {p : Suspended α} {f : α → Session → Suspended β} {b : β}
    (h : (p.bind f).Course answers reports u b) :
    ∃ a t first rest early late, answers = first ++ rest ∧ reports = early ++ late ∧
      p.Course first early t a ∧ (f a t).Course rest late u b := by
  induction p generalizing answers reports with
  | done s a => exact ⟨a, s, [], _, [], _, rfl, rfl, .done s a, h⟩
  | call c s resume ih =>
      obtain ⟨answer, v, more, now, later, rfl, rfl, hmeanwhile, hrest⟩ := of_call h
      obtain ⟨a, t, first, rest, early, late, rfl, rfl, hp, hf⟩ := ih answer v hrest
      exact ⟨a, t, _ :: first, rest, now ++ early, late, rfl, (List.append_assoc ..).symm,
        .call answer hmeanwhile hp, hf⟩
  | update files s resume ih =>
      cases h with
      | update run finished blameless still dashboard hrest =>
          obtain ⟨a, t, first, rest, early, late, rfl, rfl, hp, hf⟩ := ih _ _ hrest
          exact ⟨a, t, _ ++ first, rest, _ ++ early, late, (List.append_assoc ..).symm,
            (List.append_assoc ..).symm, .update run finished blameless still dashboard hp, hf⟩

end Suspended.Course

/-! ### Updates that fail -/

namespace UpdateRun

variable {period now : Nat} {l l' : Lifecycle} {coming : List UploadProgress}
  {files : List FirmwareImage} {moves : List UpdateMove} {r : UpdateRun}
  {result : Except Failure UpdatePhase}

/-- **What becomes of an update.** It was refused, and nothing has come of it; or it has failed for
a failure of the upload request or by a verdict, and has told so at the end; or it has gone well
enough. -/
theorem result_cases (h : (start now l files coming).run period moves = some r)
    (hfinished : r.turn = .finished l' result) :
    (∃ cause, result = .error (.input cause) ∧ l' = l ∧ r.answers = [] ∧ r.events = [] ∧
      r.upload = .unsent) ∨
    (((∃ e, result = .error e) ∨ result = .ok .failed) ∧ l'.phase = .failed ∧
      r.events = told r.answers ++ [.uploadFailed] ∧ r.upload ≠ .unsent) ∨
    (result = .ok .succeeded ∨ result = .ok .polling) := by
  cases hsubmit : l.submit files with
  | error cause =>
      obtain rfl := run_of_refused hsubmit h
      obtain ⟨rfl, rfl⟩ := Turn.finished.inj hfinished
      exact .inl ⟨cause, rfl, rfl, rfl, rfl, rfl⟩
  | ok started =>
      obtain ⟨image, events, l''⟩ := started
      obtain ⟨hidle, rfl, -, -⟩ := Lifecycle.submit_eq_ok hsubmit
      obtain ⟨haccount, houtcome⟩ := ((sound_start now image coming hidle).run h).outcome hfinished
      cases houtcome with
      | succeeded => exact .inr (.inr (.inl rfl))
      | undecided => exact .inr (.inr (.inr rfl))
      | rejected phase _ ended =>
          refine .inr (.inl ⟨.inr rfl, phase, haccount.shown_of_failed phase, ?_⟩)
          intro hunsent
          rw [hunsent] at ended
          cases ended
      | brokenOff e phase _ _ ended =>
          refine .inr (.inl ⟨.inl ⟨e, rfl⟩, phase, haccount.shown_of_failed phase, ?_⟩)
          intro hunsent
          rw [hunsent] at ended
          cases ended

end UpdateRun

/-! ### Whose failure an update reports -/

/-- A device whose uploads do not fail for the operator's input. -/
def DeviceModel.Blameless {σ : Type} (D : DeviceModel σ) : Prop :=
  ∀ image x e, (D.upload image x).1.outcome = .error e → e.isInput = false

/-- The failure that a turn has in hand: of an update that goes on, or of one that is over. -/
def Turn.failure? : Turn Failure → Option Failure
  | .select loop | .query loop => loop.failure
  | .finished _ (.error e) => some e
  | .finished _ (.ok _) => none

namespace UpdateLoop

variable {loop : UpdateLoop Failure} {e : Failure}

/-- The end of a turn finds no new failure. -/
theorem failure_of_settle (loop : UpdateLoop Failure) (h : loop.settle.2.failure? = some e) :
    loop.failure = some e := by
  simp only [settle, conclude] at h
  split at h
  · split at h
    · next hfailure =>
      split at h
      · exact hfailure.trans h
      · cases h
    · cases h
  · exact h

/-- A turn that takes progress finds no new failure. -/
theorem failure_of_progress {p : UploadProgress} (h : (loop.progress p).2.failure? = some e) :
    loop.failure = some e := by
  rcases loop.progress_cases p with ⟨-, -, heq⟩ | ⟨-, heq⟩
  · rw [heq] at h
    exact h
  · rw [heq] at h
    exact failure_of_settle _ h

/-- A turn that gets an answer finds no new failure. -/
theorem failure_of_answer {a : Except Failure UpdateReport}
    (h : (loop.answer a).2.failure? = some e) : loop.failure = some e := by
  cases a with
  | ok report =>
      exact failure_of_settle { loop with lifecycle := (loop.lifecycle.report report).2 } h
  | error cause => exact failure_of_settle loop h

/-- **A failure comes from the upload request**: it was in hand before, or the request has just
ended with it. -/
theorem failure_of_take {x : Stimulus Failure} (h : (loop.take x).2.failure? = some e) :
    loop.failure = some e ∨ x = .uploadEnded (.error e) := by
  cases x with
  | uploadEnded outcome =>
      rw [take_uploadEnded] at h
      have hfailure : (loop.afterUpload outcome).failure = some e := failure_of_progress h
      cases outcome with
      | ok _ => cases hfailure
      | error cause =>
          obtain rfl := Option.some.inj hfailure
          exact .inr rfl
  | progress newest => exact .inl (failure_of_progress h)
  | closed => exact .inl (failure_of_settle { loop with listening := false } h)
  | tick =>
      simp only [take] at h
      split at h
      · cases h
      · exact .inl (failure_of_settle { loop with lifecycle := loop.lifecycle.tick.2 } h)

end UpdateLoop

/-! ### Against the clock -/

namespace Timeline

variable {σ : Type} (D : DeviceModel σ)

/-- A step of the poll loop does not touch the dashboard. -/
theorem pollStep_dashboard (w : Timeline σ) :
    (w.pollStep D).session.dashboard = w.session.dashboard := by
  have hdeliver (s : Session) (answer : Except Failure Status) :
      (s.deliver answer).dashboard = s.dashboard := by
    cases answer <;> rfl
  generalize hstep : w.pollStep D = v
  cases hstep ▸ w.pollMove_pollStep D with
  | rest | start | ask => rfl
  | exchange | receive => exact hdeliver _ _

/-- Whatever falls due before a time brings some reports. -/
theorem exists_meanwhile_background (time n : Nat) (w : Timeline σ) :
    ∃ reports, w.session.Meanwhile (w.background D time n).session reports := by
  refine background_induction D (P := fun v => ∃ reports, w.session.Meanwhile v.session reports)
    ?_ ?_ (fun _ _ h => h) time n ⟨[], .refl _⟩
  · rintro v ⟨reports, h⟩
    exact ⟨reports, (pollStep_still D v).trans h.still, (pollStep_dashboard D v).trans h.dashboard⟩
  · rintro v ⟨reports, h⟩
    obtain ⟨more, hmore⟩ := v.session.exists_meanwhile_reconcile
    exact ⟨reports ++ more, h.trans hmore⟩

/-- A wait until a time brings some reports. -/
theorem exists_meanwhile_sleepUntil (time : Nat) (w : Timeline σ) :
    ∃ reports, w.session.Meanwhile (w.sleepUntil D time).session reports :=
  exists_meanwhile_background D time _ w

/-- Some reports come while a call is under way. -/
theorem exists_meanwhile_call (c : Call) (w : Timeline σ) :
    ∃ reports, w.session.Meanwhile (w.call D c).1.session reports := by
  refine call_keeps D (K := fun t => ∃ reports, w.session.Meanwhile t reports) ?_ c ⟨[], .refl _⟩
  rintro time v ⟨reports, h⟩
  obtain ⟨more, hmore⟩ := exists_meanwhile_sleepUntil D time v
  exact ⟨reports ++ more, h.trans hmore⟩

/-- A turn of an update shows its events. -/
theorem turn_shows (loop : UpdateLoop Failure) (x : Stimulus Failure) (w : Timeline σ) :
    w.session.dashboard.Shows (turn D loop x w).2.1 (turn D loop x w).1.session.dashboard := by
  have hfirst := w.session.dashboard.shows_events (loop.take x).1
  cases hnext : (loop.take x).2 with
  | query loop' =>
      obtain ⟨reports, hcall⟩ :=
        exists_meanwhile_call D .queryVerdict (w.showEvents (loop.take x).1)
      have hwaited : w.session.dashboard.Shows (loop.take x).1
          (call D .queryVerdict (w.showEvents (loop.take x).1)).1.session.dashboard := by
        have hpolled := hfirst.trans hcall.shows
        rwa [List.append_nil] at hpolled
      simp only [turn, hnext]
      exact hwaited.trans (Dashboard.shows_events _ _)
  | select _ | finished _ _ =>
      simp only [turn, hnext]
      exact hfirst

/-- **An update shows its events**, and reports come in between. -/
theorem runUpdate_shows (n : Nat) (u : Updating) (w : Timeline σ) :
    w.session.dashboard.Shows (runUpdate D n u w).2.1
      (runUpdate D n u w).1.session.dashboard := by
  induction n generalizing u w with
  | zero => exact ⟨[], rfl⟩
  | succ n ih =>
      rw [runUpdate]
      dsimp only
      split
      · obtain ⟨reports, hwait⟩ :=
          exists_meanwhile_sleepUntil D ((u.catchUp w.now).wake w.now) w
        exact hwait.shows.trans (ih _ _)
      · next x hx =>
        have hturn := turn_shows D (u.catchUp w.now).loop x w
        split
        · next heq =>
          rw [heq] at hturn
          exact hturn
        · next heq =>
          rw [heq] at hturn
          exact hturn.trans (ih _ _)
        · next heq =>
          rw [heq] at hturn
          exact hturn.trans (ih _ _)

/-- An update that is submitted shows its events, and reports come in between. -/
theorem update_shows (files : List FirmwareImage) (w : Timeline σ) :
    w.session.dashboard.Shows (update D files w).2.1
      (update D files w).1.session.dashboard := by
  rw [update]
  split
  · exact ⟨[], rfl⟩
  · exact (w.session.dashboard.shows_events _).trans (runUpdate_shows D _ _ _)

/-- A turn finds no failure but that of the upload request. -/
theorem failure_of_turn {loop : UpdateLoop Failure} {x : Stimulus Failure} {w : Timeline σ}
    {e : Failure} (h : (turn D loop x w).2.2.failure? = some e) :
    loop.failure = some e ∨ x = .uploadEnded (.error e) := by
  refine UpdateLoop.failure_of_take ?_
  cases hnext : (loop.take x).2 with
  | query loop' =>
      simp only [turn, hnext] at h
      exact UpdateLoop.failure_of_answer h
  | select _ | finished _ _ =>
      simp only [turn, hnext] at h
      exact h

/-- The end of an upload is taken up with its outcome. -/
theorem Updating.outcome_of_stimulus {u : Updating} {now : Nat} {outcome : Except Failure Unit}
    (h : u.stimulus? now = some (.uploadEnded outcome)) : u.upload.outcome = outcome := by
  simp only [stimulus?] at h
  split at h
  · exact Stimulus.uploadEnded.inj (Option.some.inj h)
  · split at h
    · cases h
    · split at h
      · cases h
      · split at h
        · split at h <;> cases h
        · cases h

/-- Sending what is due does not change how an upload ends. -/
theorem Updating.catchUp_outcome (u : Updating) (now : Nat) :
    (u.catchUp now).upload.outcome = u.upload.outcome ∧ (u.catchUp now).loop = u.loop := by
  rw [catchUp]
  split <;> exact ⟨rfl, rfl⟩

/-- Taking up a stimulus does not change how an upload ends. -/
theorem Updating.consume_outcome (period : Nat) (u : Updating) (x : Stimulus Failure) :
    (u.consume period x).upload.outcome = u.upload.outcome := by
  cases x <;> rfl

/-- **An update that fails has the failure of its upload request**, if a failure that it has in hand
is the one. -/
theorem failure_of_runUpdate (n : Nat) (u : Updating) (w : Timeline σ) {e : Failure}
    (hloop : ∀ e, u.loop.failure = some e → u.upload.outcome = .error e)
    (h : (runUpdate D n u w).2.2 = .error e) : u.upload.outcome = .error e := by
  induction n generalizing u w with
  | zero => cases h
  | succ n ih =>
      obtain ⟨houtcome, hsame⟩ := u.catchUp_outcome w.now
      rw [← hsame, ← houtcome] at hloop
      rw [← houtcome]
      rw [runUpdate] at h
      dsimp only at h
      generalize u.catchUp w.now = v at *
      split at h
      · exact ih v _ hloop h
      · next x hx =>
        have hturn {e' : Failure} (he : (turn D v.loop x w).2.2.failure? = some e') :
            v.upload.outcome = .error e' := by
          rcases failure_of_turn D he with hfailure | rfl
          · exact hloop e' hfailure
          · exact Updating.outcome_of_stimulus hx
        split at h
        · next heq =>
          rw [heq] at hturn
          exact hturn (congrArg (fun r => (Turn.finished _ r).failure?) h)
        all_goals
          next heq =>
          rw [heq] at hturn
          have hrest := ih _ _ (fun e' he => ?_) h
          · exact (v.consume_outcome _ x).symm.trans hrest
          · exact (v.consume_outcome _ x).trans (hturn he)

/-- **An update whose device is blameless blames the input only if nothing is sent.** -/
theorem submit_of_update (hD : D.Blameless) {files : List FirmwareImage} {w : Timeline σ}
    {e : Failure} (h : (update D files w).2.2 = .error e) (he : e.isInput = true) :
    ∃ cause, w.session.lifecycle.submit files = .error cause := by
  cases hsubmit : w.session.lifecycle.submit files with
  | error cause => exact ⟨cause, rfl⟩
  | ok started =>
      obtain ⟨image, events, l⟩ := started
      simp only [update, hsubmit] at h
      have hupload : (D.upload image w.device).1.outcome = .error e :=
        failure_of_runUpdate D _ _ _ (fun _ hnone => by cases hnone) h
      rw [hD image w.device e hupload] at he
      cases he

/-- **An operation against the clock takes a course**, if its device is blameless. -/
theorem runSuspended_course (hD : D.Blameless) {α : Type} (p : Suspended α) (w : Timeline σ) :
    ∃ answers reports,
      p.Course answers reports (runSuspended D p w).1.session (runSuspended D p w).2 := by
  induction p generalizing w with
  | done s a => exact ⟨[], [], .done s a⟩
  | call c s resume ih =>
      obtain ⟨early, hmeanwhile⟩ := exists_meanwhile_call D c { w with session := s }
      obtain ⟨answers, late, hrest⟩ := ih (call D c { w with session := s }).2
        (call D c { w with session := s }).1.session (call D c { w with session := s }).1
      exact ⟨_, _, .call _ hmeanwhile hrest⟩
  | update files s resume ih =>
      obtain ⟨coming, moves, r, l, hrun, hover, hevents, -, hlifecycle⟩ :=
        update_isRun D files { w with session := s }
      have hstill := update_still D files { w with session := s }
      rw [hlifecycle] at hstill
      obtain ⟨early, hshown⟩ := update_shows D files { w with session := s }
      rw [← hevents] at hshown
      have hunsent (e : Failure) (he : (update D files { w with session := s }).2.2 = .error e)
          (hinput : e.isInput = true) : r.upload = .unsent := by
        obtain ⟨cause, hsubmit⟩ := submit_of_update D hD he hinput
        rw [UpdateRun.run_of_refused hsubmit hrun]
      obtain ⟨answers, late, hrest⟩ := ih (update D files { w with session := s }).2.2
        (update D files { w with session := s }).1.session
        (update D files { w with session := s }).1
      exact ⟨_, _, .update hrun hover hunsent hstill hshown hrest⟩

end Timeline

/-! ### Devices over a link -/

namespace Client

variable {α : Type} {target : String} {r : Http.Response} {e : Failure}

/-- A refusal is not blamed on the operator. -/
theorem isInput_of_accepted (h : accepted target r = .error e) : e.isInput = false := by
  rw [accepted] at h
  split at h
  · cases h
  · obtain rfl := Except.error.inj h
    rfl

/-- What comes of a body is not blamed on the operator, if a body that cannot be read is not. -/
theorem isInput_of_body {ε : Type} {body : Except ε α} {blame : ε → Failure}
    (hblame : ∀ cause, (blame cause).isInput = false)
    (h : (do accepted target r; body.mapError blame) = .error e) : e.isInput = false := by
  cases haccepted : accepted target r with
  | error refusal =>
      rw [haccepted] at h
      obtain rfl := Except.error.inj h
      exact isInput_of_accepted haccepted
  | ok _ =>
      rw [haccepted] at h
      cases body with
      | error cause =>
          obtain rfl := Except.error.inj h
          exact hblame cause
      | ok a => cases h

theorem isInput_of_readJson {reader : Json.Reader α} (h : readJson target reader r = .error e) :
    e.isInput = false :=
  isInput_of_body (fun _ => rfl) h

/-- A body that cannot be read is not blamed on the operator, whatever is made of one that can. -/
theorem isInput_of_readJson_map {β : Type} {reader : Json.Reader α} {f : α → β}
    (h : (readJson target reader r).map f = .error e) : e.isInput = false := by
  cases hread : readJson target reader r with
  | error refusal =>
      rw [hread] at h
      obtain rfl := Except.error.inj h
      exact isInput_of_readJson hread
  | ok a =>
      rw [hread] at h
      cases h

/-- **No answer is blamed on the operator.** -/
theorem isInput_of_interpret {client : Client} {c : Call} (h : client.interpret c r = .error e) :
    e.isInput = false := by
  cases c with
  | loadManual | loadAuto => exact isInput_of_readJson h
  | loadSlot id =>
      rw [interpret] at h
      split at h
      · obtain rfl := Except.error.inj h
        rfl
      · exact isInput_of_body (fun _ => rfl) h
  | queryVerdict | wifiStatus => exact isInput_of_readJson_map h
  | saveManual | saveAuto | saveSlot | eraseSlot | connectWifi => exact isInput_of_accepted h

/-- **A device over a link does not blame the operator**, whatever it is asked. -/
theorem isInput_of_call {σ : Type} (client : Client) (link : Link σ) (c : Call) (s : σ)
    (h : (client.call link c s).1 = .error e) : e.isInput = false := by
  rw [call] at h
  split at h
  · obtain rfl := Except.error.inj h
    rfl
  · exact isInput_of_interpret h

/-- **A device that is reached over a link is blameless**: its uploads fail because nothing answers,
or because the answer is a refusal. -/
theorem model_blameless {σ : Type} (client : Client) (link : Link σ) :
    (client.model link).Blameless := by
  intro image x e h
  simp only [model, upload] at h
  split at h
  · obtain rfl := Except.error.inj h
    rfl
  · exact isInput_of_accepted h

end Client

end FanControl
