import FanControl.Proofs.Firmware.Clock
import FanControl.Proofs.Session.Alike

/-!
# Two timelines side by side

Two devices give the same answers if some relation of their memories is kept by everything they can
be asked, with the same replies. With such devices, alike sessions at the same time stay alike
whatever happens next: `Timeline.Alike` is kept by the poll loop, by waits, by calls, by a whole
update and by every operation.

A device gives the same answers as itself, so a timeline can be put beside itself. What the
relation says of a session alone, such as where its countdown begins, is then an invariant of
every history.

## Main results

* `Timeline.Alike.sleep`, `Timeline.Alike.call`, `Timeline.Alike.update`: what an operation waits
  for;
* `Timeline.Alike.step`, `Timeline.Alike.after`: a step, and any steps;
* `Timeline.Alike.observations`: alike timelines show the same.
-/

namespace FanControl

/-- A relation of the memories of two devices under which they give the same answers. -/
structure DeviceModel.SameAnswers {σ τ : Type} (D : DeviceModel σ) (E : DeviceModel τ)
    (R : σ → τ → Prop) : Prop where
  fetch : ∀ {x y}, R x y → (D.fetch x).1 = (E.fetch y).1 ∧ R (D.fetch x).2 (E.fetch y).2
  call : ∀ {x y} (c : Call), R x y →
    (D.call c x).1 = (E.call c y).1 ∧ R (D.call c x).2 (E.call c y).2
  upload : ∀ {x y} (image : FirmwareImage), R x y →
    (D.upload image x).1 = (E.upload image y).1 ∧ R (D.upload image x).2 (E.upload image y).2

/-- A device gives the same answers as itself. -/
theorem DeviceModel.sameAnswers_self {σ : Type} (D : DeviceModel σ) : D.SameAnswers D Eq where
  fetch h := by subst h; exact ⟨rfl, rfl⟩
  call c h := by subst h; exact ⟨rfl, rfl⟩
  upload image h := by subst h; exact ⟨rfl, rfl⟩

/-! ### Where the countdown begins -/

/-- The end of a turn leaves the place alone where the countdown begins. -/
theorem UpdateLoop.settle_start (s : UpdateLoop Failure) :
    s.settle.2.lifecycle.start = s.lifecycle.start := by
  rcases s.settle_lifecycle with h | ⟨-, -, h⟩ <;> rw [h]

/-- Progress leaves the place alone where the countdown begins. -/
theorem UpdateLoop.progress_start (s : UpdateLoop Failure) (p : UploadProgress) :
    (s.progress p).2.lifecycle.start = s.lifecycle.start := by
  rcases s.progress_cases p with ⟨-, -, h⟩ | ⟨-, h⟩
  · rw [h]
    rfl
  · rw [h]
    exact s.settle_start

/-- A step of the countdown leaves the place alone where the countdown begins. -/
theorem Lifecycle.tick_start (l : Lifecycle) : l.tick.2.start = l.start := by
  rw [tick.eq_def]
  split
  · split <;> rfl
  · rfl

/-- Every stimulus leaves the place alone where the countdown begins. -/
theorem UpdateLoop.take_start (s : UpdateLoop Failure) (x : Stimulus Failure) :
    (s.take x).2.lifecycle.start = s.lifecycle.start := by
  cases x with
  | uploadEnded outcome =>
      rw [take_uploadEnded]
      exact progress_start _ _
  | progress newest => exact s.progress_start newest
  | closed => exact settle_start { s with listening := false }
  | tick =>
      have htick := s.lifecycle.tick_start
      simp only [take]
      split
      · exact htick
      · exact (settle_start { s with lifecycle := s.lifecycle.tick.2 }).trans htick

/-- Every answer leaves the place alone where the countdown begins. -/
theorem UpdateLoop.answer_start (s : UpdateLoop Failure) (a : Except Failure UpdateReport) :
    (s.answer a).2.lifecycle.start = s.lifecycle.start := by
  cases a with
  | ok report =>
      exact (settle_start { s with lifecycle := (s.lifecycle.report report).2 }).trans
        (s.lifecycle.report_start report)
  | error e => exact s.settle_start

namespace Timeline

/-- Two timelines at the same time whose devices are related and whose sessions are alike. -/
structure Alike (c : Configuration) {σ τ : Type} (R : σ → τ → Prop) (w : Timeline σ)
    (v : Timeline τ) : Prop where
  now : w.now = v.now
  device : R w.device v.device
  session : w.session.Alike c v.session

namespace Alike

variable {c : Configuration} {σ τ : Type} {D : DeviceModel σ} {E : DeviceModel τ}
  {R : σ → τ → Prop} {w : Timeline σ} {v : Timeline τ}

/-! ### Polling -/

/-- Alike timelines stay alike when their sessions are changed into alike ones. -/
theorem mapSession (h : w.Alike c R v) {f g : Session → Session}
    (hfg : (f w.session).Alike c (g v.session)) : (w.mapSession f).Alike c R (v.mapSession g) :=
  { h with session := hfg }

/-- Alike timelines stay alike when their poll loops are put in the same place. -/
theorem setLoop (h : w.Alike c R v) (loop : PollLoop Failure) :
    (w.setLoop loop).Alike c R (v.setLoop loop) :=
  h.mapSession { h.session with loop := rfl }

/-- Alike timelines stay alike when the same answer to a status request comes in. -/
theorem deliver (h : w.Alike c R v) (answer : Except Failure Status) :
    (w.mapSession (·.deliver answer)).Alike c R (v.mapSession (·.deliver answer)) :=
  h.mapSession (h.session.deliver answer)

/-- A step of the poll loop keeps two timelines alike. -/
theorem pollStep (hR : D.SameAnswers E R) (h : w.Alike c R v) :
    (w.pollStep D).Alike c R (v.pollStep E) := by
  obtain ⟨now, x, s, _⟩ := w
  obtain ⟨now', y, t, _⟩ := v
  obtain ⟨rfl, hxy, hst⟩ := h
  obtain ⟨hreply, hdevice⟩ : (D.fetch x).1 = (E.fetch y).1 ∧ R (D.fetch x).2 (E.fetch y).2 :=
    hR.fetch hxy
  have hloop : s.poller.loop = t.poller.loop := hst.loop
  have hboth (a b : List Sent) : Alike c R ⟨now, x, s, a⟩ ⟨now, y, t, b⟩ := ⟨rfl, hxy, hst⟩
  simp only [Timeline.pollStep, hloop]
  rcases t.poller.loop with _ | ⟨period⟩ | ⟨ticker⟩ | ⟨ticker, arrival, answer⟩
  · exact hboth _ _
  · exact (hboth _ _).setLoop _
  · have hfetched (a b : List Sent) : Alike c R
        (Timeline.mapSession (fun s => { s with poller := s.poller.countFetch })
          ⟨now, (D.fetch x).2, s, a⟩)
        (Timeline.mapSession (fun s => { s with poller := s.poller.countFetch })
          ⟨now, (E.fetch y).2, t, b⟩) :=
      ⟨rfl, hdevice, { hst with loop := hst.loop }⟩
    by_cases hdue : now < ticker.due
    · simp only [hdue, if_true]
      exact hboth _ _
    · simp only [hdue, if_false, hreply]
      by_cases hdelay : (E.fetch y).1.delay = 0
      · simp only [hdelay, if_true]
        exact ((hfetched _ _).setLoop _).deliver _
      · simp only [hdelay, if_false]
        exact (hfetched _ _).setLoop _
  · by_cases hearly : now < arrival
    · simp only [hearly, if_true]
      exact hboth _ _
    · simp only [hearly, if_false]
      exact ((hboth _ _).setLoop _).deliver _

/-- Some steps of the poll loop keep two timelines alike. -/
theorem pollSteps (hR : D.SameAnswers E R) (n : Nat) (h : w.Alike c R v) :
    (w.pollSteps D n).Alike c R (v.pollSteps E n) := by
  induction n generalizing w v with
  | zero => exact h
  | succ n ih => exact ih (h.pollStep hR)

/-- All that the poll loop does at a moment keeps two timelines alike. -/
theorem poll (hR : D.SameAnswers E R) (h : w.Alike c R v) : (w.poll D).Alike c R (v.poll E) :=
  have hsteps := h.pollSteps hR (Ticker.grace + 4)
  hsteps.mapSession hsteps.session.reconcile

/-! ### Time -/

/-- Alike timelines stay alike when their clocks are set to the same time. -/
theorem setNow (h : w.Alike c R v) (time : Nat) :
    Alike c R { w with now := time } { v with now := time } :=
  { h with now := rfl }

/-- What falls due before a time keeps two timelines alike. -/
theorem background (hR : D.SameAnswers E R) (time n : Nat) (h : w.Alike c R v) :
    (w.background D time n).Alike c R (v.background E time n) := by
  induction n generalizing w v with
  | zero => exact h
  | succ n ih =>
      simp only [Timeline.background, h.session.loop]
      split
      · exact h
      · rw [h.now]
        split
        · exact ih ((h.setNow _).poll hR)
        · exact h

/-- A wait until a time keeps two timelines alike. -/
theorem sleepUntil (hR : D.SameAnswers E R) (time : Nat) (h : w.Alike c R v) :
    (w.sleepUntil D time).Alike c R (v.sleepUntil E time) := by
  rw [Timeline.sleepUntil, Timeline.sleepUntil, h.now]
  exact (h.background hR time _).setNow time

/-- A wait for some time keeps two timelines alike. -/
theorem sleep (hR : D.SameAnswers E R) (delay : Nat) (h : w.Alike c R v) :
    (w.sleep D delay).Alike c R (v.sleep E delay) := by
  rw [Timeline.sleep, Timeline.sleep, h.now]
  split
  · exact h
  · exact h.sleepUntil hR _

/-- Everything that is due by now keeps two timelines alike. -/
theorem settle (hR : D.SameAnswers E R) (h : w.Alike c R v) :
    (w.settle D).Alike c R (v.settle E) := by
  rw [Timeline.settle, Timeline.settle, h.now]
  exact h.background hR _ _

/-- Time that passes keeps two timelines alike. -/
theorem advance (hR : D.SameAnswers E R) (delay : Nat) (h : w.Alike c R v) :
    (w.advance D delay).Alike c R (v.advance E delay) := by
  rw [Timeline.advance, Timeline.advance, h.now]
  exact (h.sleepUntil hR _).settle hR

/-! ### Calls and updates -/

/-- A call keeps two timelines alike, and has the same answer. -/
theorem call (hR : D.SameAnswers E R) (x : Call) (h : w.Alike c R v) :
    (w.call D x).1.Alike c R (v.call E x).1 ∧ (w.call D x).2 = (v.call E x).2 := by
  obtain ⟨hreply, hdevice⟩ := hR.call x h.device
  simp only [Timeline.call, hreply, and_true]
  exact sleep hR _ ⟨h.now, hdevice, h.session⟩

/-- Alike timelines stay alike when they show the same events. -/
theorem showEvents (h : w.Alike c R v) (events : List UpdateEvent) :
    (w.showEvents events).Alike c R (v.showEvents events) :=
  h.mapSession (h.session.mapDashboard fun d => events.foldl Dashboard.applyEvent d)

/-- A turn of the loop of an update keeps two timelines alike, and gives the same in both. -/
theorem turn (hR : D.SameAnswers E R) (loop : UpdateLoop Failure) (x : Stimulus Failure)
    (h : w.Alike c R v) :
    (w.turn D loop x).1.Alike c R (v.turn E loop x).1 ∧
      (w.turn D loop x).2 = (v.turn E loop x).2 := by
  simp only [Timeline.turn]
  cases (loop.take x).2 with
  | query loop' =>
      obtain ⟨hcall, hanswer⟩ := (h.showEvents (loop.take x).1).call hR .queryVerdict
      simp only [hanswer, and_true]
      exact hcall.showEvents _
  | select loop' => exact ⟨h.showEvents _, rfl⟩
  | finished l result => exact ⟨h.showEvents _, rfl⟩

/-- A turn leaves the place alone where the countdown begins. -/
theorem turn_start (D : DeviceModel σ) (loop : UpdateLoop Failure) (x : Stimulus Failure)
    (w : Timeline σ) : (w.turn D loop x).2.2.lifecycle.start = loop.lifecycle.start := by
  have htake := loop.take_start x
  simp only [Timeline.turn]
  cases hturn : (loop.take x).2 with
  | query loop' =>
      rw [hturn] at htake
      exact (loop'.answer_start _).trans htake
  | select loop' | finished l result =>
      rw [hturn] at htake
      exact htake

/-- Alike timelines stay alike when they get the same lifecycle with a countdown of the
configuration. -/
theorem setLifecycle (h : w.Alike c R v) {l : Lifecycle}
    (hstart : l.start = atLeastOne c.countdown.toNat) :
    (w.mapSession fun s => { s with lifecycle := l }).Alike c R
      (v.mapSession fun s => { s with lifecycle := l }) :=
  h.mapSession { h.session with lifecycle := .of_start hstart }

/-- An update that goes on with the same loop and the same upload keeps two timelines alike, and
gives the same in both. -/
theorem runUpdate (hR : D.SameAnswers E R) (n : Nat) (u : Updating)
    (hu : u.loop.lifecycle.start = atLeastOne c.countdown.toNat) (h : w.Alike c R v) :
    (w.runUpdate D n u).1.Alike c R (v.runUpdate E n u).1 ∧
      (w.runUpdate D n u).2 = (v.runUpdate E n u).2 := by
  induction n generalizing u w v with
  | zero => exact ⟨h.setLifecycle hu, rfl⟩
  | succ n ih =>
      have hcaught : (u.catchUp v.now).loop = u.loop := by
        rw [Updating.catchUp]
        split <;> rfl
      simp only [Timeline.runUpdate, h.now]
      cases (u.catchUp v.now).stimulus? v.now with
      | none => exact ih _ (hcaught ▸ hu) (h.sleepUntil hR _)
      | some x =>
          obtain ⟨hturn, hshown⟩ := h.turn hR (u.catchUp v.now).loop x
          have hstart : (v.turn E (u.catchUp v.now).loop x).2.2.lifecycle.start =
              atLeastOne c.countdown.toNat := by rw [turn_start, hcaught, hu]
          dsimp only
          generalize w.turn D (u.catchUp v.now).loop x = a at hturn hshown
          generalize v.turn E (u.catchUp v.now).loop x = b at hturn hshown hstart
          obtain ⟨w₁, events, t⟩ := a
          obtain ⟨v₁, events', t'⟩ := b
          obtain ⟨rfl, rfl⟩ : events = events' ∧ t = t' := Prod.mk.inj hshown
          replace hturn : w₁.Alike c R v₁ := hturn
          have hperiod : w₁.tickPeriod = v₁.tickPeriod := by
            rw [tickPeriod, tickPeriod, hturn.session.configuration.1,
              hturn.session.configuration.2]
          cases t with
          | finished l result => exact ⟨hturn.setLifecycle hstart, rfl⟩
          | select loop | query loop =>
              have hnow : w₁.now = v₁.now := hturn.now
              simp only [hperiod, hnow]
              obtain ⟨hrest, hmore⟩ := ih (((u.catchUp v.now).consume v₁.tickPeriod x).proceed
                v₁.tickPeriod v₁.now loop) hstart hturn
              exact ⟨hrest, congrArg (fun shown => (events ++ shown.1, shown.2)) hmore⟩

/-- An update keeps two timelines alike, shows the same and has the same result. -/
theorem update (hR : D.SameAnswers E R) (files : List FirmwareImage) (h : w.Alike c R v) :
    (w.update D files).1.Alike c R (v.update E files).1 ∧
      (w.update D files).2 = (v.update E files).2 := by
  obtain ⟨now, x, s, a⟩ := w
  obtain ⟨now', y, t, b⟩ := v
  obtain ⟨rfl, hxy, hst⟩ := h
  have hsubmit : s.lifecycle.submit files = t.lifecycle.submit files := hst.lifecycle.submit files
  simp only [Timeline.update, hsubmit]
  cases hstarted : t.lifecycle.submit files with
  | error e => exact ⟨⟨rfl, hxy, hst⟩, rfl⟩
  | ok started =>
      obtain ⟨image, events, l⟩ := started
      obtain ⟨-, -, -, rfl⟩ := Lifecycle.submit_eq_ok hstarted
      obtain ⟨hplan, hdevice⟩ : (D.upload image x).1 = (E.upload image y).1 ∧
          R (D.upload image x).2 (E.upload image y).2 := hR.upload image hxy
      have hsent : Alike c R ⟨now, (D.upload image x).2, s, .upload image :: a⟩
          ⟨now, (E.upload image y).2, t, .upload image :: b⟩ := ⟨rfl, hdevice, hst⟩
      obtain ⟨hrest, hmore⟩ := (hsent.showEvents events).runUpdate hR
        (2 * ((E.upload image y).1.chunks.length + t.lifecycle.submitted.start + 4))
        ⟨.begin t.lifecycle.submitted image, .start (E.upload image y).1 now, none⟩
        hst.lifecycle.starts.2
      simp only [hplan]
      exact ⟨hrest, congrArg (fun shown => (events ++ shown.1, shown.2)) hmore⟩

/-! ### Operations -/

/-- Alike timelines stay alike with the alike sessions that an operation leaves behind. -/
theorem withSession (h : w.Alike c R v) {s t : Session} (hst : s.Alike c t) :
    Alike c R { w with session := s } { v with session := t } :=
  { h with session := hst }

/-- Operations under way that are alike keep two timelines alike, and have the same results. -/
theorem runSuspended (hR : D.SameAnswers E R) {α : Type} {p q : Suspended α} (hpq : p.Alike c q)
    (h : w.Alike c R v) :
    (Timeline.runSuspended D p w).1.Alike c R (Timeline.runSuspended E q v).1 ∧
      (Timeline.runSuspended D p w).2 = (Timeline.runSuspended E q v).2 := by
  induction hpq generalizing w v with
  | done session a => exact ⟨h.withSession session, rfl⟩
  | call x session resume ih =>
      obtain ⟨hcall, hanswer⟩ := (h.withSession session).call hR x
      simp only [Timeline.runSuspended, hanswer]
      exact ih _ _ _ hcall.session hcall
  | update files session resume ih =>
      obtain ⟨hupdate, hresult⟩ := (h.withSession session).update hR files
      simp only [Timeline.runSuspended, hresult]
      exact ih _ _ _ hupdate.session hupdate

/-- While operations that are alike are under way, the sessions are seen the same. -/
theorem glimpses (hR : D.SameAnswers E R) {α : Type} {p q : Suspended α} (hpq : p.Alike c q)
    (h : w.Alike c R v) : Timeline.glimpses D p w = Timeline.glimpses E q v := by
  induction hpq generalizing w v with
  | done session a => simp only [Timeline.glimpses, h.now, session.view]
  | call x session resume ih =>
      obtain ⟨hcall, hanswer⟩ := (h.withSession session).call hR x
      simp only [Timeline.glimpses]
      refine congrArg₂ List.cons (congrArg₂ Prod.mk h.now session.view)
        (congrArg₂ List.cons (congrArg₂ Prod.mk hcall.now hcall.session.view) ?_)
      rw [hanswer]
      exact ih _ _ _ hcall.session hcall
  | update files session resume ih =>
      obtain ⟨hupdate, hresult⟩ := (h.withSession session).update hR files
      simp only [Timeline.glimpses]
      refine congrArg₂ List.cons (congrArg₂ Prod.mk h.now session.view)
        (congrArg₂ List.cons (congrArg₂ Prod.mk hupdate.now hupdate.session.view) ?_)
      simp only [hresult]
      exact ih _ _ _ hupdate.session hupdate

/-- An operation that makes alike sessions do the same keeps two timelines alike, and has the same
result. -/
theorem perform (hR : D.SameAnswers E R) {α : Type} {op : Operation α} (hop : op.Respects c)
    (h : w.Alike c R v) :
    (w.perform D op).1.Alike c R (v.perform E op).1 ∧
      (w.perform D op).2 = (v.perform E op).2 := by
  obtain ⟨hrun, hresult⟩ := runSuspended hR (hop _ _ h.session) h
  exact ⟨hrun.settle hR, hresult⟩

/-- **A step keeps two timelines alike, and gives the same in both.** -/
theorem step (hR : D.SameAnswers E R) (x : SessionStep) (h : w.Alike c R v) :
    (w.step D x).1.Alike c R (v.step E x).1 ∧ (w.step D x).2 = (v.step E x).2 := by
  cases x with
  | wait ms => exact ⟨h.advance hR ms, rfl⟩
  | command x => exact h.perform hR x.respects

/-- Any steps keep two timelines alike. -/
theorem after (hR : D.SameAnswers E R) (xs : List SessionStep) (h : w.Alike c R v) :
    (w.after D xs).Alike c R (v.after E xs) := by
  induction xs generalizing w v with
  | nil => exact h
  | cons x xs ih => exact ih (h.step hR x).1

/-- **Alike timelines show the same.** -/
theorem observations (hR : D.SameAnswers E R) (xs : List SessionStep) (h : w.Alike c R v) :
    w.observations D xs = v.observations E xs := by
  induction xs generalizing w v with
  | nil => rfl
  | cons x xs ih =>
      obtain ⟨hstep, hresult⟩ := h.step hR x
      rw [Timeline.observations, Timeline.observations, hresult, hstep.session.view, ih hstep]

/-- Sessions that have done nothing make alike timelines at the same time, if the devices are
related. -/
theorem fresh (c : Configuration) (now : Nat) {x : σ} {y : τ} (hxy : R x y) :
    (Timeline.fresh c now x).Alike c R (Timeline.fresh c now y) :=
  ⟨rfl, hxy, .new c⟩

end Alike

end Timeline

end FanControl
