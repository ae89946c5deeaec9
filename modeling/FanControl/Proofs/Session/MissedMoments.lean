import FanControl.Proofs.Session.PollSchedule

/-!
# Moments that a poll loop misses

While a request is under way its successor cannot begin, and moments of the grid may go by. What is
missed should be left out, except that one request may come late. But a ticker leaves moments out
only when it is later than its grace. Up to then it serves them one after another, as fast as the
answers come.

So what is served of the missed moments **lies within the grace**, and it depends on the period how
many these can be: one as long as a period is no shorter than the grace, and more for every shorter
one.

## Main results

* `PollRound.missedWithin_nth`: which of the missed moments are served;
* `Timeline.skipsMissed_iff`: the periods with which one of them is served at most.
-/

namespace FanControl

/-! ### Missed moments -/

/-- What is left of the moments that go by while a request is under way, if requests serve the
moments `due`, begin at the times `begun`, and take as long as `delay` tells. -/
structure MissedWithin (reach : Nat) (delay due begun : Nat → Nat) : Prop where
  /-- Moments that fall due during one request and are served lie close together. -/
  during (k i j : Nat) : begun k < due i → due j < begun k + delay k → due j < due i + reach
  /-- Moments that have gone by and are served at one time lie close together. -/
  together (i j : Nat) : begun i = begun j → due j < begun j → due j < due i + reach

/-- What is expected of the moments that go by while a request is under way. -/
structure SkipsMissed (delay due begun : Nat → Nat) : Prop where
  /-- Of those that fall due during one request at most one is served. -/
  once (k i j : Nat) : begun k < due i → due i < begun k + delay k → begun k < due j →
    due j < begun k + delay k → i = j
  /-- At one time at most one request is made for a moment that has gone by. -/
  noBurst (i j : Nat) : begun i = begun j → due i < begun i → due j < begun j → i = j

namespace PollRound

variable {period now : Nat} {delay : Nat → Nat}

/-- A request for a moment after the beginning of another one begins when that has ended. -/
theorem begun_add_le_begun {k i : Nat}
    (h : (nth period now delay k).begun < (nth period now delay i).due) :
    (nth period now delay k).begun + delay k ≤ (nth period now delay i).begun := by
  have hlater : k < i := by
    by_contra hle
    have hdue : (nth period now delay i).due ≤ (nth period now delay k).due :=
      monotone_due (Nat.not_lt.mp hle)
    exact absurd (hdue.trans (due_le_begun _)) h.not_ge
  exact (begun_add_le_begun_next _ _).trans (monotone_begun (Nat.succ_le_of_lt hlater))

/-- **The missed moments that are served lie within the grace of the ticker.** -/
theorem missedWithin_nth (period now : Nat) (delay : Nat → Nat) :
    MissedWithin Ticker.grace delay (fun k => (nth period now delay k).due)
      (fun k => (nth period now delay k).begun) where
  during _ _ _ hi hj := due_lt_due_add_grace (begun_add_le_begun hi) hj
  together _ _ hbegun hj := due_lt_due_add_grace hbegun.ge hj

/-- Requests for moments within one period are the same. -/
theorem eq_of_due_lt {i j : Nat}
    (hij : (nth period now delay j).due < (nth period now delay i).due + atLeastOne period)
    (hji : (nth period now delay i).due < (nth period now delay j).due + atLeastOne period) :
    i = j := by
  by_contra hne
  rcases Nat.lt_or_gt_of_ne hne with h | h
  · exact absurd (due_add_le_due h) hij.not_ge
  · exact absurd (due_add_le_due h) hji.not_ge

/-- **A period that is no shorter than the grace has room for one of them.** -/
theorem skipsMissed_nth (h : Ticker.grace ≤ period) (now : Nat) (delay : Nat → Nat) :
    SkipsMissed delay (fun k => (nth period now delay k).due)
      (fun k => (nth period now delay k).begun) := by
  have hwithin := missedWithin_nth period now delay
  have hreach (n : Nat) : n + Ticker.grace ≤ n + atLeastOne period :=
    Nat.add_le_add_left (h.trans (Nat.le_max_left ..)) n
  refine ⟨fun k i j hi hi' hj hj' => ?_, fun i j hbegun hi hj => ?_⟩
  · exact eq_of_due_lt ((hwithin.during k i j hi hj').trans_le (hreach _))
      ((hwithin.during k j i hj hi').trans_le (hreach _))
  · exact eq_of_due_lt ((hwithin.together i j hbegun hj).trans_le (hreach _))
      ((hwithin.together j i hbegun.symm hi).trans_le (hreach _))

/-- **A shorter period has room for two of them.** During a request that takes a little longer than
two periods two moments go by, and both are served when it has ended. -/
theorem not_skipsMissed_nth (h : period < Ticker.grace) (now : Nat) (delay : Nat → Nat)
    (hdelay : delay 0 = 2 * atLeastOne period + 1) :
    ¬SkipsMissed delay (fun k => (nth period now delay k).due)
      (fun k => (nth period now delay k).begun) := by
  have hgrace : Ticker.grace = 5 := rfl
  have hperiod : atLeastOne period ≤ 4 := Nat.max_le.mpr ⟨by omega, by decide⟩
  have hpositive := atLeastOne_pos period
  have hbegun : (nth period now delay 0).begun = now := Nat.max_self now
  have hfirst : (nth period now delay 1).due = now + atLeastOne period :=
    Ticker.due_fire_of_le _ (hbegun.trans_le (Nat.le_add_right ..))
  have hsecond : (nth period now delay 2).due = now + 2 * atLeastOne period := by
    have hready : (nth period now delay 1).ready = now + delay 0 := congrArg (· + delay 0) hbegun
    have hintime : (nth period now delay 1).begun ≤ (nth period now delay 1).due + Ticker.grace :=
      Nat.max_le.mpr ⟨by omega, Nat.le_add_right ..⟩
    have hnext := Ticker.due_fire_of_le _ hintime
    rw [period_nth] at hnext
    refine hnext.trans ?_
    change (nth period now delay 1).due + atLeastOne period = _
    omega
  intro hskips
  have honce := hskips.once 0 1 2
  rw [hbegun, hfirst, hsecond, hdelay] at honce
  exact absurd (honce (by omega) (by omega) (by omega) (by omega)) (by decide)

end PollRound

/-! ### Poll loops -/

namespace Timeline

/-- A device that takes for each report as long as `delay` tells, and refuses all else. -/
def pacedDevice (delay : Nat → Nat) : DeviceModel Nat where
  fetch n := (⟨delay n, .ok .empty⟩, n + 1)
  call _ n := (⟨0, .error (.unanswered "")⟩, n)
  upload _ n := (⟨[], 0, .error (.unanswered "")⟩, n)

theorem fetched_pacedDevice (delay : Nat → Nat) (k : Nat) :
    (pacedDevice delay).fetched 0 k = k := by
  induction k with
  | zero => rfl
  | succ k ih => exact congrArg (· + 1) ih

theorem delay_reply_pacedDevice (delay : Nat → Nat) (k : Nat) :
    ((pacedDevice delay).reply 0 k).delay = delay k :=
  congrArg delay (fetched_pacedDevice delay k)

/-- **When a poll loop skips what it misses.** The requests of `Timeline.pollRound` are those that a
running loop makes. Of the moments that fall due while one of them is under way, those that are
served lie within the grace of the ticker, whatever the answers take. With a period that is no
shorter than the grace this leaves one of them at most, and no two late requests begin at one time;
with a shorter one there are devices with which more of them are served. -/
theorem skipsMissed_iff (period : Nat) :
    (∀ {σ : Type} (D : DeviceModel σ) (w : Timeline σ),
      MissedWithin Ticker.grace (fun k => (D.reply w.device k).delay)
        (fun k => (w.pollRound D period k).due) (fun k => (w.pollRound D period k).begun) ∧
      ∀ waits : List Nat,
        let v := (w.startPolling D period).after D (waits.map .wait)
        ∃ made, (∀ k, k < made ↔ (w.pollRound D period k).begun ≤ v.now) ∧
          v.session.poller.fetches = w.session.poller.fetches + made) ∧
    ((∀ {σ : Type} (D : DeviceModel σ) (w : Timeline σ),
        SkipsMissed (fun k => (D.reply w.device k).delay)
          (fun k => (w.pollRound D period k).due) (fun k => (w.pollRound D period k).begun)) ↔
      Ticker.grace ≤ period) := by
  refine ⟨fun D w => ⟨PollRound.missedWithin_nth period w.now _, fun waits => ?_⟩, ?_, ?_⟩
  · have hpolled := (PolledBy.startPolling D period w).after waits
    obtain ⟨made, came, h, hmade, -⟩ := hpolled.due
    refine ⟨made, ?_, h.counts.fetches⟩
    rwa [hpolled.now]
  · intro hskips
    by_contra hshort
    let delay (k : Nat) : Nat := if k = 0 then 2 * atLeastOne period + 1 else 0
    exact PollRound.not_skipsMissed_nth (Nat.not_le.mp hshort) 0 _
      (delay_reply_pacedDevice delay 0) (hskips (pacedDevice delay) (fresh .default 0 0))
  · intro h σ D w
    exact PollRound.skipsMissed_nth h w.now _

/-- A loop with a period of 2 milliseconds misses the moments 2 and 4 during a request that takes 5,
and makes a request for each of them when it has ended. -/
theorem both_missed_served :
    let D := pacedDevice fun k => if k = 0 then 5 else 0
    let w := fresh .default 0 0
    let request := w.pollRound D 2
    (request 0).begun + (D.reply w.device 0).delay = 5 ∧
      ((request 1).due, (request 1).begun) = (2, 5) ∧
      ((request 2).due, (request 2).begun) = (4, 5) ∧
      ((w.startPolling D 2).after D [.wait 5]).session.poller.fetches = 3 := by
  decide

end Timeline

end FanControl
