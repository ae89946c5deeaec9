import FanControl.Proofs.Session.Delivery
import FanControl.Proofs.Session.Operations
import FanControl.Proofs.Session.PollSchedule

/-!
# Sessions deliver their statuses

A session against a clock has a poll loop and a feed with one reader, and whatever falls due at one
moment is done in one order. This module shows that **all it does is some moves of a `Delivery`**:
the two are kept side by side, and `Delivery.Mirrors` says that they look the same. So what holds
after all moves in any order holds of every session, whatever its device does.

What an operation is made of, and each step of polling, is some moves; the rest follows from
`SessionCommand.operation_within`.

## Main results

* `Delivery.Reaches.stop`, `Delivery.Reaches.start`: calls;
* `Delivery.Reaches.pollStep`, `Delivery.Reaches.reconcile`: polling;
* `Delivery.Reaches.after`: all that a session does;
* `Delivery.statuses_delivered`: how statuses get to the dashboard.
-/

namespace FanControl

/-- Where a poll loop stands as a task. -/
def PollLoop.stage {ε : Type} : PollLoop ε → PollStage
  | .starting _ | .waiting _ => .resting
  | .fetching .. => .asking

/-- The only task has a number. -/
theorem Tasks.Single.exists_at? {α : Type} {t : Tasks α} (h : t.Single) {a : α}
    (honly : t.only? = some a) : ∃ id, t.at? id = some a := by
  obtain ⟨-, halive⟩ | ⟨id, a', -, halive⟩ := h.cases
  · simp [only?, halive] at honly
  · simp only [only?, halive, List.head?_cons, Option.map_some] at honly
    exact ⟨id, by simp [at?, halive, Option.some.inj honly]⟩

namespace Delivery

variable {d d' : Delivery} {s t : Session}

/-! ### Side by side -/

/-- **A delivery that looks like a session**, between two calls and with nothing in the reader's
hand. -/
structure Mirrors (d : Delivery) (s : Session) : Prop where
  idle : d.todo = []
  poll : d.polls.only? = s.poller.loop.map PollLoop.stage
  held : ∀ r, d.readers.only? = some r → r.held = none
  feed : s.feed = { d.feed with seen := d.readers.only?.map (·.seen) }
  dashboard : s.dashboard = d.dashboard
  asked : s.poller.fetches = d.asked

/-- What a delivery mirrors of a session is the poller, the feed and the dashboard. -/
theorem Mirrors.congr (h : d.Mirrors s) (hpoller : t.poller = s.poller) (hfeed : t.feed = s.feed)
    (hdashboard : t.dashboard = s.dashboard) : d.Mirrors t :=
  ⟨h.idle, hpoller ▸ h.poll, h.held, hfeed ▸ h.feed, hdashboard ▸ h.dashboard,
    hpoller ▸ h.asked⟩

/-- **Some moves lead to what a session looks like.** -/
def Reaches (d : Delivery) (s : Session) : Prop :=
  ∃ moves d', d.run moves = some d' ∧ d'.Sound ∧ d'.Mirrors s

/-- What can be reached from the sessions that are reached is reached. -/
theorem Reaches.next (h : d.Reaches s) (hnext : ∀ d' : Delivery, d'.Sound → d'.Mirrors s →
    ∃ moves d'', d'.run moves = some d'' ∧ d''.Mirrors t) : d.Reaches t := by
  obtain ⟨moves, d', hrun, hsound, hmirrors⟩ := h
  obtain ⟨more, d'', hmore, hmirrors'⟩ := hnext d' hsound hmirrors
  exact ⟨moves ++ more, d'', (run_append hrun more).trans hmore, hsound.run hmore, hmirrors'⟩

/-- A session with the same poller, feed and dashboard is reached without a further move. -/
theorem Reaches.congr (h : d.Reaches s) (hpoller : t.poller = s.poller) (hfeed : t.feed = s.feed)
    (hdashboard : t.dashboard = s.dashboard) : d.Reaches t :=
  h.next fun d' _ hd => ⟨[], d', rfl, hd.congr hpoller hfeed hdashboard⟩

/-! ### What operations are made of -/

/-- What is noted on the dashboard is reached by the move that notes it. -/
theorem Reaches.note (h : d.Reaches s) {m : DashboardMove} (hm : m.isReport = false) :
    d.Reaches { s with dashboard := s.dashboard.apply m } := by
  refine h.next fun d' _ hd => ⟨[.note m], { d' with dashboard := d'.dashboard.apply m }, ?_, ?_⟩
  · simp [run, move?, hm]
  · exact { hd with dashboard := congrArg (Dashboard.apply · m) hd.dashboard }

/-- An empty dashboard is reached by the move that empties it. -/
theorem Reaches.clear (h : d.Reaches s) : d.Reaches { s with dashboard := .empty } :=
  h.next fun d' _ hd =>
    ⟨[.clear], { d' with dashboard := .empty }, rfl, { hd with dashboard := rfl }⟩

/-- **The end of polling is reached** by a call that stops the session. -/
theorem Reaches.stop (h : d.Reaches s) :
    d.Reaches { s with poller := s.poller.stop, feed := s.feed.unsubscribe } := by
  refine h.next fun d' hd' hd => ⟨[.call .stop, .act, .act], { d' with
    todo := []
    called := some .stop
    polls := d'.polls.abort
    readers := d'.readers.abort }, ?_, ?_⟩
  · simp [run, move?, hd.idle, SessionCall.actions, act]
  · refine ⟨rfl, hd'.polls.abort.2.2, fun r hr => ?_, ?_, hd.dashboard, hd.asked⟩
    · rw [hd'.readers.abort.2.2] at hr
      cases hr
    · rw [hd'.readers.abort.2.2, hd.feed]
      rfl

/-- **The beginning of polling is reached** by a call that starts the session. -/
theorem Reaches.start (h : d.Reaches s) (period : Nat) :
    d.Reaches { s with feed := s.feed.subscribe, poller := s.poller.start period } := by
  refine h.next fun d' hd' hd => ⟨[.call .start, .act, .act, .act, .act, .act], { d' with
    todo := []
    called := some .start
    polls := d'.polls.abort.abort.spawn .resting
    readers := d'.readers.abort.spawn ⟨d'.feed.version, d'.feed.version, none⟩ }, ?_, ?_⟩
  · simp [run, move?, hd.idle, SessionCall.actions, act]
  · refine ⟨rfl, rfl, fun r hr => ?_, ?_, hd.dashboard, hd.asked⟩
    · obtain rfl := Option.some.inj hr
      rfl
    · rw [hd.feed]
      rfl

/-- **What is reached from a delivery allows every operation.** -/
theorem allowsAll_reaches (d : Delivery) :
    (Limits.mk d.Reaches (fun _ => True) True).AllowsAll where
  forms h hs := by
    have hall {α : Type} (part : Session → α)
        (hpart : ∀ s : Session, part s.withoutForms = part s) : part _ = part _ :=
      (hpart _).symm.trans ((congrArg part h).trans (hpart _))
    exact Reaches.congr hs (hall Session.poller fun _ => rfl) (hall Session.feed fun _ => rfl)
      (hall Session.dashboard fun _ => rfl)
  note hm hs := Reaches.note hs hm
  stop hs := Reaches.stop hs
  start hs := Reaches.start hs _
  reads _ _ := trivial
  clear hs := Reaches.clear hs
  lifecycle _ hs := Reaches.congr hs rfl rfl rfl
  calls _ := trivial
  updates := trivial

/-! ### Polling -/

/-- **A request for the status is reached** by the move with which the poll task asks. -/
theorem Reaches.ask (h : d.Reaches s) {loop : PollLoop Failure}
    (hloop : s.poller.loop = some loop) (hresting : loop.stage = .resting)
    (loop' : PollLoop Failure) (hasking : loop'.stage = .asking) :
    d.Reaches { s with poller := { s.poller.countFetch with loop := some loop' } } := by
  refine h.next fun d' hd' hd => ?_
  have honly : d'.polls.only? = some .resting := by rw [hd.poll, hloop, ← hresting]; rfl
  obtain ⟨id, hat⟩ := hd'.polls.exists_at? honly
  refine ⟨[.ask id], { d' with polls := d'.polls.set id .asking, asked := d'.asked + 1 }, ?_, ?_⟩
  · simp [run, move?, hat]
  · exact { hd with
      poll := (hd'.polls.set hat _).2.1.trans (congrArg some hasking.symm)
      asked := congrArg (· + 1) hd.asked }

/-- **An answer is reached** by the move that brings it, and by its publication if it is good. -/
theorem Reaches.receive (h : d.Reaches s) {loop loop' : PollLoop Failure}
    (hloop : s.poller.loop = some loop) (hasking : loop.stage = .asking)
    (hresting : loop'.stage = .resting) (answer : Except Failure Status) :
    d.Reaches ({ s with poller := { s.poller with loop := some loop' } }.deliver answer) := by
  refine h.next fun d' hd' hd => ?_
  have honly : d'.polls.only? = some .asking := by rw [hd.poll, hloop, ← hasking]; rfl
  obtain ⟨id, hat⟩ := hd'.polls.exists_at? honly
  have hstage := congrArg some hresting.symm
  cases answer with
  | error e =>
      refine ⟨[.answer id none], { d' with polls := d'.polls.set id .resting }, ?_, ?_⟩
      · simp [run, move?, hat]
      · exact { hd with poll := (hd'.polls.set hat _).2.1.trans hstage }
  | ok status =>
      obtain ⟨hsingle, -, hat'⟩ := hd'.polls.set hat (.answered status)
      refine ⟨[.answer id (some status), .publish id], { d' with
        polls := (d'.polls.set id (.answered status)).set id .resting
        feed := d'.feed.publish status
        fetched := d'.fetched ++ [status]
        published := d'.published ++ [status] }, ?_, ?_⟩
      · simp [run, move?, hat, hat']
      · exact { hd with
          poll := (hsingle.set hat' _).2.1.trans hstage
          feed := congrArg (StatusFeed.publish · status) hd.feed }

/-- **A dashboard that catches up is reached**: the reader takes the latest status, if it is new,
and applies it. -/
theorem Reaches.reconcile (h : d.Reaches s) : d.Reaches s.reconcile := by
  refine h.next fun d' hd' hd => ?_
  cases honly : d'.readers.only? with
  | none =>
      have hseen : s.feed.seen = none := by rw [hd.feed, honly]; rfl
      have hkept : s.reconcile = s := by simp [Session.reconcile, StatusFeed.take, hseen]
      exact ⟨[], d', rfl, hkept.symm ▸ hd⟩
  | some r =>
      obtain ⟨id, hat⟩ := hd'.readers.exists_at? honly
      obtain ⟨since, seen, held⟩ := r
      obtain rfl : held = none := hd.held _ honly
      have hseen : s.feed.seen = some seen := by rw [hd.feed, honly]; rfl
      have hversion : s.feed.version = d'.feed.version := by rw [hd.feed]
      by_cases hunseen : seen < d'.feed.version
      · obtain ⟨status, hlatest⟩ := hd'.exists_latest hunseen
        have hcaught : s.reconcile = { s with
            feed := s.feed.subscribe, dashboard := s.dashboard.applyStatus status } := by
          have hstatus : s.feed.latest = some status := by rw [hd.feed, ← hlatest]
          simp [Session.reconcile, StatusFeed.take, hseen, hversion, hunseen, hstatus]
        obtain ⟨hsingle, -, htaken⟩ :=
          hd'.readers.set hat ⟨since, d'.feed.version, some status⟩
        obtain ⟨-, honly', -⟩ := hsingle.set htaken ⟨since, d'.feed.version, none⟩
        refine ⟨[.take id, .apply id], _, (run_cons (move?_take hat hunseen hlatest) _).trans
          (run_cons (move?_apply htaken) _), ?_⟩
        rw [hcaught]
        refine { hd with held := fun r hr => ?_, feed := ?_, dashboard := ?_ }
        · obtain rfl := Option.some.inj (honly'.symm.trans hr)
          rfl
        · rw [honly', hd.feed]
          rfl
        · exact congrArg (Dashboard.applyStatus · status) hd.dashboard
      · have hkept : s.reconcile = s := by
          simp [Session.reconcile, StatusFeed.take, hseen, hversion, hunseen]
        exact ⟨[], d', rfl, hkept.symm ▸ hd⟩

section

variable {σ : Type} {D : DeviceModel σ} {w : Timeline σ}

/-- **Every step of the poll loop is reached.** -/
theorem Reaches.pollStep (h : d.Reaches w.session) : d.Reaches (w.pollStep D).session := by
  generalize hstep : w.pollStep D = v
  cases hstep ▸ w.pollMove_pollStep D with
  | rest => exact h
  | start loop =>
      exact h.next fun d' _ hd =>
        ⟨[], d', rfl, { hd with poll := hd.poll.trans (by rw [loop]; rfl) }⟩
  | ask loop => exact h.ask loop rfl _ rfl
  | @exchange ticker loop due delay =>
      have hasked := h.ask loop rfl (.fetching ticker w.now (D.fetch w.device).1.answer) rfl
      exact hasked.receive rfl rfl rfl _
  | receive loop => exact h.receive loop rfl rfl _

/-- **A wait is reached**, with all that falls due in it. -/
theorem Reaches.background (time n : Nat) (h : d.Reaches w.session) :
    d.Reaches (w.background D time n).session :=
  Timeline.background_induction D (P := fun w => d.Reaches w.session) (fun _ h => h.pollStep)
    (fun _ h => h.reconcile) (fun _ _ h => h) time n h

/-- **What an operation leaves behind is reached.** -/
theorem Reaches.perform (x : SessionCommand) (h : d.Reaches w.session) :
    d.Reaches (w.perform D x.operation).1.session := by
  have hwait (time : Nat) (w : Timeline σ) (h : d.Reaches w.session) :
      d.Reaches (w.sleepUntil D time).session := h.background time _
  have hended := Timeline.runSuspended_within D (fun x _ h => Timeline.call_keeps D hwait x h)
    (fun _ files _ h => Timeline.update_keeps hwait (fun event h => h.note (m := .event event) rfl)
      (fun _ h => h.congr rfl rfl rfl) files h)
    (x.operation_within (allowsAll_reaches d) w.session h) w
  exact Reaches.background _ _ hended

/-- **All that a session does is some moves of a delivery.** -/
theorem Reaches.after (steps : List SessionStep) (h : d.Reaches w.session) :
    d.Reaches (w.after D steps).session := by
  induction steps generalizing w with
  | nil => exact h
  | cons step steps ih =>
      cases step with
      | wait ms => exact ih (Reaches.background _ _ (h.background _ _))
      | command x => exact ih (h.perform x)

end

/-- A session that has done nothing is reached without a move. -/
theorem reaches_initial (c : Configuration) : initial.Reaches (.new c) :=
  ⟨[], initial, rfl, sound_initial, rfl, rfl, fun _ => (nomatch ·), rfl, rfl, rfl⟩

/-- **Statuses are delivered in order, once, and up to the last.** In whatever order the poll task,
the reader and the session take their steps, and wherever tasks are aborted: what is applied to the
dashboard is published before, and that is fetched before, in the same order and each status once;
there is never more than one task of a kind, and a session that is started has both; a reader that
has taken all there is has brought the last status to the dashboard, and needs three steps for it at
most; and after a stop nothing is fetched, published or applied until a start, after which nothing
is applied that was published before. Every session against a clock, with any device, is one of
these. -/
theorem statuses_delivered :
    (∀ moves d, initial.run moves = some d → d.Delivers) ∧
    ∀ {σ : Type} (D : DeviceModel σ) (c : Configuration) (now : Nat) (device : σ)
      (steps : List SessionStep), ∃ moves d, initial.run moves = some d ∧
        d.Mirrors ((Timeline.fresh c now device).after D steps).session := by
  refine ⟨fun moves d hrun => delivers_of_run hrun, fun D c now device steps => ?_⟩
  obtain ⟨moves, d, hrun, -, hmirrors⟩ :=
    Reaches.after (D := D) (w := .fresh c now device) steps (reaches_initial c)
  exact ⟨moves, d, hrun, hmirrors⟩

/-- The first status is passed over, the second is applied, and the third is still to be taken when
the session is started again. It is never applied; the fourth is. -/
theorem statuses_delivered_restarted :
    let blank : Status := ⟨none, none, none, none⟩
    let manual : Status := ⟨none, none, some (.known .manual), none⟩
    let poll (task : Nat) (status : Status) : List DeliveryMove :=
      [.ask task, .answer task (some status), .publish task]
    let start : List DeliveryMove := [.call .start, .act, .act, .act, .act, .act]
    let moves := start ++ poll 0 blank ++ poll 0 manual ++ [.take 0, .apply 0] ++ poll 0 blank ++
      start ++ poll 1 manual ++ [.take 1, .apply 1]
    ∃ d, initial.run moves = some d ∧ d.published = [blank, manual, blank, manual] ∧
      d.applied = [manual, manual] ∧ d.Delivers := by
  intro blank manual poll start moves
  have hends : (initial.run moves).map (fun d => (d.published, d.applied)) =
      some ([blank, manual, blank, manual], [manual, manual]) := rfl
  obtain ⟨d, hrun, hlists⟩ := Option.map_eq_some_iff.mp hends
  obtain ⟨hpublished, happlied⟩ := Prod.mk.inj hlists
  exact ⟨d, hrun, hpublished, happlied, statuses_delivered.1 moves d hrun⟩

end Delivery

end FanControl
