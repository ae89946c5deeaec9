import FanControl.Proofs.Polling
import Mathlib.Algebra.Ring.Nat

/-!
# A poll loop keeps its schedule

A running poll loop knows nothing of a schedule: it takes steps when it is woken up, and the clock
is moved by others. Still, **as long as time is all that passes, it makes the requests of
`Timeline.pollRound`**, each at its time. `Polled` says where a loop stands that has kept to them:
it waits for the next request, between the end of the last one and its own beginning, or for an
answer. A step of the loop goes from one of these places to the next, and a wait moves the clock to
the end of the stay at the place, at most.

A step also leaves the loop with less to do at the moment, so that the steps of `Timeline.poll` do
all of it, and a loop with nothing left to do has made exactly the requests whose time has come.

## Main results

* `Timeline.pollMove_pollStep`: what a step of a poll loop can be;
* `Timeline.pending_poll`: nothing is left to do after all polling at a moment;
* `Timeline.Polled.pollStep`, `Timeline.PolledBy.advance`: a step of the loop, and a wait;
* `Timeline.polling_schedule`: what a poll loop has done after any waits.
-/

namespace FanControl

@[simp] theorem Session.deliver_poller (s : Session) (answer : Except Failure Status) :
    (s.deliver answer).poller = s.poller := by
  cases answer <;> rfl

@[simp] theorem Session.reconcile_poller (s : Session) : s.reconcile.poller = s.poller := by
  rw [reconcile]
  split <;> rfl

/-! ### What is counted -/

/-- A poller that has made some more requests, all of them of one loop. -/
structure Poller.Counts (p q : Poller Failure) (made : Nat) : Prop where
  fetches : q.fetches = p.fetches + made
  abandoned : q.abandoned ≤ p.abandoned
  mostInFlight : q.mostInFlight ≤ max p.mostInFlight (p.abandoned + 1)

/-- What a poller has counted does not depend on where its loop stands. -/
theorem Poller.Counts.setLoop {p q : Poller Failure} {made : Nat} (h : p.Counts q made)
    (loop : Option (PollLoop Failure)) : p.Counts { q with loop } made := ⟨h.1, h.2, h.3⟩

/-- A poller that counts another request has made one more. -/
theorem Poller.Counts.countFetch {p q : Poller Failure} {made : Nat} (h : p.Counts q made) :
    p.Counts q.countFetch (made + 1) where
  fetches := congrArg (· + 1) h.fetches
  abandoned := Nat.zero_le _
  mostInFlight := Nat.max_le.mpr ⟨h.mostInFlight,
    (Nat.succ_le_succ h.abandoned).trans (Nat.le_max_right ..)⟩

/-! ### What is published -/

section

variable {σ : Type} {D : DeviceModel σ}

/-- A reply adds its report, if it has one. -/
theorem DeviceModel.statuses_succ (x : σ) (k : Nat) :
    D.statuses x (k + 1) = D.statuses x k ++ (D.reply x k).answer.toOption.toList := by
  rw [statuses, List.range_succ, List.filterMap_append]
  refine congrArg (D.statuses x k ++ ·) ?_
  rw [List.filterMap_cons]
  cases (D.reply x k).answer <;> rfl

/-- An answer that comes is published, if it is good. -/
theorem StatusFeed.ExtendsBy.deliver {f : StatusFeed} {s : Session} {x : σ} {k : Nat}
    (h : f.ExtendsBy s.feed (D.statuses x k)) :
    f.ExtendsBy (s.deliver (D.reply x k).answer).feed (D.statuses x (k + 1)) := by
  rw [D.statuses_succ]
  cases (D.reply x k).answer with
  | error e => exact (List.append_nil (D.statuses x k)).symm ▸ h
  | ok status =>
      refine ⟨?_, ?_⟩
      · exact (congrArg (Option.or · f.latest) List.getLast?_concat).symm
      · exact (congrArg (· + 1) h.version).trans (by simp [Except.toOption, Nat.add_assoc])

/-- Nothing is published when the dashboard catches up. -/
theorem StatusFeed.ExtendsBy.reconcile {f : StatusFeed} {s : Session} {l : List Status}
    (h : f.ExtendsBy s.feed l) : f.ExtendsBy s.reconcile.feed l := by
  have htake : s.feed.take.2.latest = s.feed.latest ∧ s.feed.take.2.version = s.feed.version := by
    rw [StatusFeed.take]
    split
    · split <;> exact ⟨rfl, rfl⟩
    · exact ⟨rfl, rfl⟩
  have hfeed : s.reconcile.feed = s.feed.take.2 := by
    rw [Session.reconcile]
    split <;> simp [*]
  rw [hfeed]
  exact ⟨htake.1.trans h.latest, htake.2.trans h.version⟩

end

namespace Timeline

variable {σ : Type} (D : DeviceModel σ)

/-! ### Steps -/

/-- A request for the status is made. -/
def asked (w : Timeline σ) : Timeline σ :=
  { w with device := (D.fetch w.device).2 }.mapSession fun s =>
    { s with poller := s.poller.countFetch }

/-- An answer comes in, and the loop waits for the next moment of its ticker. -/
def received (ticker : Ticker) (answer : Except Failure Status) (w : Timeline σ) : Timeline σ :=
  (w.setLoop (.waiting ticker)).mapSession (·.deliver answer)

/-- How many steps a poll loop can take now, at most. -/
def pendingOf (now : Nat) : PollLoop Failure → Nat
  | .starting _ => 2
  | .waiting ticker => ticker.pending now
  | .fetching ticker arrival _ => if now < arrival then 0 else ticker.pending now + 1

/-- How many steps of polling are left to do now, at most. -/
def pending (w : Timeline σ) : Nat := w.session.poller.loop.elim 0 (pendingOf w.now)

/-- What a step of a poll loop can be. -/
inductive PollMove (w : Timeline σ) : Timeline σ → Prop
  | rest (idle : w.pending = 0) : PollMove w w
  | start {period : Nat} (loop : w.session.poller.loop = some (.starting period)) :
      PollMove w (w.setLoop (.waiting (.start period w.now)))
  | ask {ticker : Ticker} (loop : w.session.poller.loop = some (.waiting ticker))
      (due : ticker.due ≤ w.now) (delay : 0 < (D.fetch w.device).1.delay) :
      PollMove w ((w.asked D).setLoop (.fetching (ticker.fire w.now)
        (w.now + (D.fetch w.device).1.delay) (D.fetch w.device).1.answer))
  /-- The answer comes at once. -/
  | exchange {ticker : Ticker} (loop : w.session.poller.loop = some (.waiting ticker))
      (due : ticker.due ≤ w.now) (delay : (D.fetch w.device).1.delay = 0) :
      PollMove w ((w.asked D).received (ticker.fire w.now) (D.fetch w.device).1.answer)
  | receive {ticker : Ticker} {arrival : Nat} {answer : Except Failure Status}
      (loop : w.session.poller.loop = some (.fetching ticker arrival answer))
      (arrived : arrival ≤ w.now) : PollMove w (w.received ticker answer)

theorem poller_received (w : Timeline σ) (ticker : Ticker) (answer : Except Failure Status) :
    (w.received ticker answer).session.poller =
      { w.session.poller with loop := some (.waiting ticker) } :=
  Session.deliver_poller _ _

theorem loop_received (w : Timeline σ) (ticker : Ticker) (answer : Except Failure Status) :
    (w.received ticker answer).session.poller.loop = some (.waiting ticker) :=
  congrArg Poller.loop (w.poller_received ticker answer)

theorem pending_of_loop {w : Timeline σ} {loop : PollLoop Failure}
    (h : w.session.poller.loop = some loop) : w.pending = pendingOf w.now loop := by
  rw [pending, h]
  rfl

/-- **Every step of a poll loop is one of its moves.** -/
theorem pollMove_pollStep (w : Timeline σ) : w.PollMove D (w.pollStep D) := by
  cases hloop : w.session.poller.loop with
  | none =>
      have hidle : w.pending = 0 := by rw [pending, hloop]; rfl
      simp only [pollStep, hloop]
      exact .rest hidle
  | some loop =>
      have hpending := pending_of_loop hloop
      cases loop with
      | starting period =>
          simp only [pollStep, hloop]
          exact .start hloop
      | waiting ticker =>
          simp only [pollStep, hloop]
          split
          · next hearly => exact .rest (hpending.trans (ticker.pending_eq_zero_iff.mpr hearly))
          · next hdue =>
              split
              · next hdelay => exact .exchange hloop (Nat.not_lt.mp hdue) hdelay
              · next hdelay => exact .ask hloop (Nat.not_lt.mp hdue) (Nat.pos_of_ne_zero hdelay)
      | fetching ticker arrival answer =>
          simp only [pollStep, hloop]
          split
          · next hearly => exact .rest (hpending.trans (if_pos hearly))
          · next harrived => exact .receive hloop (Nat.not_lt.mp harrived)

/-- A step of the poll loop takes no time. -/
theorem now_pollStep (w : Timeline σ) : (w.pollStep D).now = w.now := by
  generalize hstep : w.pollStep D = v
  cases hstep ▸ w.pollMove_pollStep D <;> rfl

/-- All that the poll loop does at a moment takes no time. -/
theorem now_poll (w : Timeline σ) : (w.poll D).now = w.now := by
  have hsteps (n : Nat) (w : Timeline σ) : (w.pollSteps D n).now = w.now := by
    induction n generalizing w with
    | zero => rfl
    | succ n ih => exact (ih _).trans (w.now_pollStep D)
  exact hsteps _ w

/-! ### What is left to do at a moment -/

theorem pending_le (w : Timeline σ) : w.pending ≤ Ticker.grace + 2 := by
  rw [pending]
  rcases w.session.poller.loop with _ | ⟨period⟩ | ⟨ticker⟩ | ⟨ticker, arrival, answer⟩
  · exact Nat.zero_le _
  · simp [pendingOf]
  · exact ticker.pending_le.trans (Nat.le_succ _)
  · have hticker : ticker.pending w.now ≤ Ticker.grace + 1 := ticker.pending_le
    simp only [Option.elim, pendingOf]
    split <;> omega

/-- **A step leaves less to do.** -/
theorem pending_pollStep (w : Timeline σ) : (w.pollStep D).pending ≤ w.pending - 1 := by
  generalize hstep : w.pollStep D = v
  cases hstep ▸ w.pollMove_pollStep D with
  | rest idle => exact idle.trans_le (Nat.zero_le _)
  | start loop =>
      rw [pending_of_loop loop]
      exact (Ticker.pending_start _ w.now).le
  | @ask ticker loop due delay =>
      refine Eq.trans_le ?_ (Nat.zero_le _)
      exact if_pos (Nat.lt_add_of_pos_right delay)
  | @exchange ticker loop due delay =>
      rw [pending_of_loop loop, pending_of_loop (loop_received ..)]
      exact Nat.le_sub_one_of_lt (ticker.pending_fire due)
  | @receive ticker arrival answer loop arrived =>
      have hfetching :
          pendingOf w.now (.fetching ticker arrival answer) = ticker.pending w.now + 1 :=
        if_neg (Nat.not_lt.mpr arrived)
      rw [pending_of_loop loop, pending_of_loop (loop_received ..), hfetching]
      exact Nat.le_refl _

/-- As many things as steps are made are not left to do any more. -/
theorem pending_pollSteps (n : Nat) (w : Timeline σ) :
    (w.pollSteps D n).pending ≤ w.pending - n := by
  induction n generalizing w with
  | zero => exact Nat.le_refl _
  | succ n ih =>
      have hstep := w.pending_pollStep D
      have hsteps := ih (w.pollStep D)
      rw [pollSteps]
      omega

/-- **Nothing is left to do after all polling at a moment.** -/
theorem pending_poll (w : Timeline σ) : (w.poll D).pending = 0 := by
  have hsteps := w.pending_pollSteps D (Ticker.grace + 4)
  have hle := w.pending_le
  have hreconcile : (w.poll D).pending = (w.pollSteps D (Ticker.grace + 4)).pending :=
    congrArg (fun p : Poller Failure => p.loop.elim 0 (pendingOf _)) (Session.reconcile_poller _)
  omega

/-- A loop with nothing left to do sleeps until later. -/
theorem lt_wake_iff {w : Timeline σ} {loop : PollLoop Failure}
    (h : w.session.poller.loop = some loop) : w.now < loop.wake w.now ↔ w.pending = 0 := by
  rw [pending_of_loop h]
  cases loop with
  | starting period => simp [PollLoop.wake, pendingOf]
  | waiting ticker => exact ticker.pending_eq_zero_iff.symm
  | fetching ticker arrival answer =>
      rw [pendingOf, PollLoop.wake]
      split <;> simp_all

/-! ### Places -/

/-- Where a poll loop of some period stands that has begun at `w`: the time, the place, how many
requests it has made, and how many answers have come. -/
inductive PollPlace (period : Nat) (w : Timeline σ) (now : Nat) :
    PollLoop Failure → Nat → Nat → Prop
  | starting (begins : now = w.now) : PollPlace period w now (.starting period) 0 0
  | waiting {k : Nat} (ready : (w.pollRound D period k).ready ≤ now)
      (begun : now ≤ (w.pollRound D period k).begun) :
      PollPlace period w now (.waiting (w.pollRound D period k).ticker) k k
  | fetching {k : Nat} (begun : (w.pollRound D period k).begun ≤ now)
      (ready : now ≤ (w.pollRound D period (k + 1)).ready) :
      PollPlace period w now (.fetching (w.pollRound D period (k + 1)).ticker
        (w.pollRound D period (k + 1)).ready (D.reply w.device k).answer) (k + 1) k

/-- A poll loop that has begun at `w` has kept to its requests until `v`. -/
structure Polled (period : Nat) (w v : Timeline σ) (made came : Nat) : Prop where
  place : ∃ loop, v.session.poller.loop = some loop ∧ PollPlace D period w v.now loop made came
  device : v.device = D.fetched w.device made
  counts : (w.session.poller.start period).Counts v.session.poller made
  feed : w.session.feed.ExtendsBy v.session.feed (D.statuses w.device came)

variable {D} {period : Nat} {w v : Timeline σ} {made came : Nat}

namespace Polled

/-- **A step of the loop goes on to the next place.** -/
theorem pollStep (h : Polled D period w v made came) :
    ∃ made came, Polled D period w (v.pollStep D) made came := by
  obtain ⟨loop, hloop, hplace⟩ := h.place
  have hreply : (D.fetch v.device).1 = D.reply w.device made := by rw [h.device]; rfl
  have hdevice : (D.fetch v.device).2 = D.fetched w.device (made + 1) := by rw [h.device]; rfl
  have hcounts := h.counts.countFetch
  generalize hstep : v.pollStep D = u
  cases hstep ▸ v.pollMove_pollStep D with
  | rest idle => exact ⟨made, came, h⟩
  | start hstart =>
      obtain rfl := Option.some.inj (hloop.symm.trans hstart)
      cases hplace with
      | starting begins =>
          refine ⟨0, 0, { h with place := ⟨_, rfl, ?_⟩, counts := h.counts.setLoop _ }⟩
          rw [begins]
          exact .waiting (k := 0) begins.ge (begins.le.trans (Nat.le_max_left ..))
  | ask hwaiting due delay =>
      obtain rfl := Option.some.inj (hloop.symm.trans hwaiting)
      cases hplace with
      | waiting ready begun =>
          -- a loop that can ask and has not done so before is at the time of its request
          have hnow := Nat.le_antisymm begun (Nat.max_le.mpr ⟨ready, due⟩)
          refine ⟨made + 1, made, ⟨⟨_, rfl, ?_⟩, hdevice, hcounts.setLoop _, h.feed⟩⟩
          rw [hreply, hnow]
          exact .fetching hnow.ge (hnow.le.trans (Nat.le_add_right ..))
  | exchange hwaiting due delay =>
      obtain rfl := Option.some.inj (hloop.symm.trans hwaiting)
      cases hplace with
      | waiting ready begun =>
          have hnow := Nat.le_antisymm begun (Nat.max_le.mpr ⟨ready, due⟩)
          have hready : (w.pollRound D period (made + 1)).ready = v.now := by
            rw [hreply] at delay
            exact (congrArg _ delay).trans hnow.symm
          refine ⟨made + 1, made + 1, ⟨⟨_, loop_received .., ?_⟩, hdevice, ?_, ?_⟩⟩
          · rw [hnow]
            refine .waiting (k := made + 1) hready.le ?_
            exact hready.ge.trans (PollRound.ready_le_begun _)
          · rw [poller_received]
            exact hcounts.setLoop _
          · rw [hreply]
            exact .deliver (s := ((v.asked D).setLoop _).session) h.feed
  | receive hfetching arrived =>
      obtain rfl := Option.some.inj (hloop.symm.trans hfetching)
      cases hplace with
      | fetching begun ready =>
          refine ⟨came + 1, came + 1, ⟨⟨_, loop_received .., ?_⟩, h.device, ?_, ?_⟩⟩
          · exact .waiting (k := came + 1) arrived (ready.trans (PollRound.ready_le_begun _))
          · rw [poller_received]
            exact h.counts.setLoop _
          · exact .deliver (s := (v.setLoop _).session) h.feed

/-- The loop keeps to its requests while it has steps to do. -/
theorem poll (h : Polled D period w v made came) :
    ∃ made came, Polled D period w (v.poll D) made came := by
  have hsteps (n : Nat) {v : Timeline σ} {made came : Nat} (h : Polled D period w v made came) :
      ∃ made came, Polled D period w (v.pollSteps D n) made came := by
    induction n generalizing v made came with
    | zero => exact ⟨made, came, h⟩
    | succ n ih =>
        obtain ⟨_, _, hstep⟩ := h.pollStep
        exact ih hstep
  obtain ⟨made, came, h⟩ := hsteps (Ticker.grace + 4) h
  have hpoller := Session.reconcile_poller (v.pollSteps D (Ticker.grace + 4)).session
  obtain ⟨loop, hloop, hplace⟩ := h.place
  exact ⟨made, came, ⟨loop, (congrArg Poller.loop hpoller).trans hloop, hplace⟩, h.device,
    hpoller ▸ h.counts, h.feed.reconcile⟩

/-- **The clock may be moved to where the loop wakes up, at most.** -/
theorem setNow (h : Polled D period w v made came) {loop : PollLoop Failure}
    (hloop : v.session.poller.loop = some loop) {time : Nat} (hnow : v.now ≤ time)
    (htime : time ≤ max v.now (loop.wake v.now)) :
    Polled D period w { v with now := time } made came := by
  obtain ⟨place, hplaceLoop, hplace⟩ := h.place
  obtain rfl := Option.some.inj (hplaceLoop.symm.trans hloop)
  refine { h with place := ⟨place, hloop, ?_⟩ }
  cases hplace with
  | starting begins =>
      rw [PollLoop.wake, Nat.max_self] at htime
      exact .starting (Nat.le_antisymm htime hnow ▸ begins)
  | waiting ready begun =>
      exact .waiting (ready.trans hnow) (htime.trans (Nat.max_le.mpr ⟨begun, Nat.le_max_right ..⟩))
  | fetching begun ready =>
      exact .fetching (begun.trans hnow) (htime.trans (Nat.max_le.mpr ⟨ready, Nat.le_refl _⟩))

/-- **The loop keeps to its requests when it is woken up** and does everything that is to be done
then. -/
theorem wakeUp (h : Polled D period w v made came) {loop : PollLoop Failure}
    (hloop : v.session.poller.loop = some loop) : ∃ made came,
      Polled D period w (Timeline.poll D { v with now := max v.now (loop.wake v.now) }) made came :=
  (h.setNow hloop (Nat.le_max_left ..) (Nat.le_refl _)).poll

end Polled

/-! ### Waits -/

section

variable {loop : PollLoop Failure} {time n : Nat} {v : Timeline σ}
  (hloop : v.session.poller.loop = some loop)
include hloop

/-- Nothing falls due before the loop wakes up. -/
theorem background_of_le_wake (htime : time ≤ loop.wake v.now) : v.background D time n = v := by
  cases n with
  | zero => rfl
  | succ n => simp only [background, hloop, if_neg (Nat.not_lt.mpr htime)]

/-- What falls due when the loop wakes up comes before all the rest. -/
theorem background_of_wake_lt (htime : loop.wake v.now < time) :
    v.background D time (n + 1) =
      (poll D { v with now := max v.now (loop.wake v.now) }).background D time n := by
  simp only [background, hloop, if_pos htime]

end

/-- **Everything that falls due before a time is done** in rounds enough for each millisecond. Then
the loop sleeps until that time at least. -/
theorem polled_background {time n : Nat} (h : ∃ made came, Polled D period w v made came)
    (hidle : v.pending = 0) (hbefore : v.now ≤ time) (hrounds : time ≤ v.now + n) :
    ∃ made came loop, Polled D period w (v.background D time n) made came ∧
      (v.background D time n).session.poller.loop = some loop ∧
      (v.background D time n).now ≤ time ∧ time ≤ loop.wake (v.background D time n).now := by
  induction n generalizing v with
  | zero =>
      obtain ⟨made, came, h⟩ := h
      obtain ⟨loop, hloop, -⟩ := h.place
      have hwake := (lt_wake_iff hloop).mpr hidle
      exact ⟨made, came, loop, h, hloop, hbefore, hrounds.trans hwake.le⟩
  | succ n ih =>
      obtain ⟨made, came, h⟩ := h
      obtain ⟨loop, hloop, -⟩ := h.place
      have hwake := (lt_wake_iff hloop).mpr hidle
      rcases Nat.lt_or_ge (loop.wake v.now) time with hdue | hlater
      · -- the loop sleeps until later, so that each round moves the clock
        have hnow : (poll D { v with now := max v.now (loop.wake v.now) }).now = loop.wake v.now :=
          (now_poll D _).trans (Nat.max_eq_right hwake.le)
        rw [background_of_wake_lt hloop hdue]
        exact ih (h.wakeUp hloop) (pending_poll D _) (by omega) (by omega)
      · rw [background_of_le_wake hloop hlater]
        exact ⟨made, came, loop, h, hloop, hbefore, hlater⟩

variable (D) in
/-- A poll loop that has begun at `w` has done everything that was to be done by a time. -/
structure PolledBy (period : Nat) (w : Timeline σ) (time : Nat) (v : Timeline σ) : Prop where
  polled : ∃ made came, Polled D period w v made came
  idle : v.pending = 0
  now : v.now = time

namespace PolledBy

variable {time : Nat}

/-- **Everything that is due by now is done** when the timeline has settled. -/
theorem settle (h : ∃ made came, Polled D period w v made came) :
    PolledBy D period w v.now (v.settle D) := by
  obtain ⟨made, came, h⟩ := h
  obtain ⟨loop, hloop, -⟩ := h.place
  rw [Timeline.settle]
  rcases Nat.lt_or_ge v.now (loop.wake v.now) with hlater | hdue
  · rw [background_of_le_wake hloop hlater]
    exact ⟨⟨made, came, h⟩, (lt_wake_iff hloop).mp hlater, rfl⟩
  · obtain ⟨_, _, hpolled⟩ := h.wakeUp hloop
    have hidle := pending_poll D { v with now := max v.now (loop.wake v.now) }
    have hnow := (now_poll D { v with now := max v.now (loop.wake v.now) }).trans
      (Nat.max_eq_left hdue)
    rw [background_of_wake_lt hloop (Nat.lt_add_one_iff.mpr hdue)]
    obtain ⟨next, hnext, -⟩ := hpolled.place
    have hwake := (lt_wake_iff hnext).mpr hidle
    rw [background_of_le_wake hnext ((congrArg (· + 1) hnow).ge.trans hwake)]
    exact ⟨⟨_, _, hpolled⟩, hidle, hnow⟩

/-- **A wait does everything that falls due until its end.** -/
theorem advance (h : PolledBy D period w time v) (ms : Nat) :
    PolledBy D period w (time + ms) (v.advance D ms) := by
  obtain ⟨hpolled, hidle, rfl⟩ := h
  obtain ⟨made, came, loop, hlast, hloop, hnow, hwake⟩ := polled_background hpolled hidle
    (Nat.le_add_right v.now ms) (n := v.now + ms + 1 - v.now) (by omega)
  exact settle ⟨made, came, hlast.setNow hloop hnow (hwake.trans (Nat.le_max_right ..))⟩

/-- **Waits one after another do everything that falls due** until the end of the last one. -/
theorem after (h : PolledBy D period w time v) (waits : List Nat) :
    PolledBy D period w (time + waits.sum) (v.after D (waits.map .wait)) := by
  induction waits generalizing time v with
  | nil => exact h
  | cons ms waits ih =>
      rw [List.sum_cons, ← Nat.add_assoc]
      exact ih (h.advance ms)

/-- A poll loop that begins does what is to be done at once. -/
theorem startPolling (D : DeviceModel σ) (period : Nat) (w : Timeline σ) :
    PolledBy D period w w.now (w.startPolling D period) := by
  refine settle (v := w.mapSession _) ⟨0, 0, ?_⟩
  exact ⟨⟨.starting period, rfl, .starting rfl⟩, rfl, ⟨rfl, Nat.le_refl _, Nat.le_max_left ..⟩,
    ⟨rfl, rfl⟩⟩

/-- **What has been done by a time is what was due by it**: the requests that have begun by then,
and the answers that have come. -/
theorem due (h : PolledBy D period w time v) :
    ∃ made came, Polled D period w v made came ∧
      (∀ k, k < made ↔ (w.pollRound D period k).begun ≤ time) ∧
      ∀ k, k < came ↔ (w.pollRound D period k).begun + (D.reply w.device k).delay ≤ time := by
  obtain ⟨⟨made, came, h⟩, hidle, rfl⟩ := h
  obtain ⟨loop, hloop, hplace⟩ := h.place
  have hwake := (lt_wake_iff hloop).mpr hidle
  refine ⟨made, came, h, ?_⟩
  cases hplace with
  | starting begins => exact absurd hwake (Nat.lt_irrefl _)
  | waiting ready begun =>
      exact PollRound.lt_iff_of_ready_le ready (hwake.trans_le (PollRound.due_le_begun _))
  | fetching begun ready => exact PollRound.lt_iff_of_begun_le begun hwake

end PolledBy

/-- **A poll loop keeps its schedule.** However long its requests take and whatever comes of them,
the times at which they begin are those of a schedule on the grid of the period: each request begins
when the one before it has ended, or later on the grid, and serves a moment of the grid that has
come and that is later than the one before. After any waits the loop has made exactly the requests
whose time has come, which are at most one for each period and one more, never two of them at once;
and the feed has been extended by exactly the reports among the answers that have come, in order. -/
theorem polling_schedule (D : DeviceModel σ) (period : Nat) (w : Timeline σ) :
    let reply := D.reply w.device
    let request := w.pollRound D period
    PollSchedule (atLeastOne period) w.now (fun k => (reply k).delay) (fun k => (request k).due)
      (fun k => (request k).begun) ∧
    ∀ waits : List Nat,
      let v := (w.startPolling D period).after D (waits.map .wait)
      v.now = w.now + waits.sum ∧
      ∃ made came,
        (∀ k, k < made ↔ (request k).begun ≤ v.now) ∧
        (∀ k, k < came ↔ (request k).begun + (reply k).delay ≤ v.now) ∧
        v.session.poller.fetches = w.session.poller.fetches + made ∧
        made ≤ waits.sum / atLeastOne period + 1 ∧
        (w.session.poller.loop.any PollLoop.isFetching = false →
          v.session.poller.mostInFlight ≤ max w.session.poller.mostInFlight 1) ∧
        w.session.feed.ExtendsBy v.session.feed (D.statuses w.device came) := by
  refine ⟨PollRound.schedule_nth _ _ _, fun waits => ?_⟩
  have hpolled := (PolledBy.startPolling D period w).after waits
  obtain ⟨made, came, h, hmade, hcame⟩ := hpolled.due
  refine ⟨hpolled.now, made, came, ?_, ?_, h.counts.fetches, ?_, fun hother => ?_, h.feed⟩
  · rwa [hpolled.now]
  · rwa [hpolled.now]
  · rcases made with _ | last
    · exact Nat.zero_le _
    · exact Nat.succ_le_succ (PollRound.le_div_of_begun_le ((hmade last).mp last.lt_succ_self))
  · have hmost := h.counts.mostInFlight
    simp only [Poller.start, hother] at hmost
    exact hmost

end Timeline

end FanControl
