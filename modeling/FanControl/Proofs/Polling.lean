import FanControl.Session.PollSchedule
import Mathlib.Order.Monotone.Basic

/-!
# Requests on the grid of a period

A ticker that is late leaves out moments, but it never leaves its grid: however late it is, its next
moment is **a whole number of periods after the last one**. So the moments that a poll loop serves
lie on the grid of its period and grow, whatever the answers take, and no more requests fit into a
time than it has moments.

## Main results

* `Ticker.due_fire`, `Ticker.pending_fire`: a ticker goes on;
* `PollRound.schedule_nth`: the schedule of all requests;
* `PollRound.due_lt_due_add_grace`: requests that are late;
* `PollRound.le_div_of_begun_le`: how many requests fit into a time.
-/

namespace FanControl

/-! ### Tickers -/

namespace Ticker

variable (t : Ticker) {now : Nat}

@[simp] theorem period_fire : (t.fire now).period = t.period := by
  rw [fire]
  split <;> rfl

/-- **A ticker stays on its grid.** -/
theorem due_fire (h : t.due ≤ now) : ∃ n, (t.fire now).due = t.due + (n + 1) * t.period := by
  rw [fire]
  split
  · exact ⟨0, by rw [Nat.zero_add, Nat.one_mul]⟩
  · have hdivide := Nat.div_add_mod (now - t.due) t.period
    refine ⟨(now - t.due) / t.period, ?_⟩
    rw [Nat.add_mul, Nat.one_mul, Nat.mul_comm _ t.period]
    dsimp only
    omega

/-- A moment that is noticed in time is followed by the next one of the grid. -/
theorem due_fire_of_le (h : now ≤ t.due + grace) : (t.fire now).due = t.due + t.period := by
  rw [fire, if_pos h]

/-- **A moment that is noticed too late** is followed by one that has not gone by. -/
theorem lt_due_fire (h : t.due + grace < now) : now < (t.fire now).due := by
  have hmod := Nat.mod_lt (now - t.due) t.period_pos
  rw [fire, if_neg (Nat.not_le.mpr h)]
  dsimp only
  omega

/-- The moments of a ticker are a period apart, or more. -/
theorem due_add_period_le (h : t.due ≤ now) : t.due + t.period ≤ (t.fire now).due := by
  obtain ⟨n, hn⟩ := t.due_fire h
  rw [hn, Nat.succ_mul]
  omega

/-- The moments of a ticker grow. -/
theorem due_lt_due_fire (h : t.due ≤ now) : t.due < (t.fire now).due :=
  (Nat.lt_add_of_pos_right t.period_pos).trans_le (t.due_add_period_le h)

/-- How many more moments of a ticker can be noticed now. -/
def pending (now : Nat) : Nat := if t.due + grace < now then 1 else now + 1 - t.due

theorem pending_le : t.pending now ≤ grace + 1 := by
  rw [pending]
  split <;> omega

theorem pending_eq_zero_iff : t.pending now = 0 ↔ now < t.due := by
  rw [pending]
  split <;> omega

/-- A ticker that begins has one moment to notice, the first one. -/
@[simp] theorem pending_start (period now : Nat) : (start period now).pending now = 1 := by
  simp [pending, start]

/-- A moment that is noticed leaves fewer. -/
theorem pending_fire (h : t.due ≤ now) : (t.fire now).pending now < t.pending now := by
  rcases Nat.lt_or_ge (t.due + grace) now with hlate | hearly
  · -- the moments that have gone by are left out, so that none is left to be noticed
    have hzero := (t.fire now).pending_eq_zero_iff.mpr (t.lt_due_fire hlate)
    rw [hzero, pending, if_pos hlate]
    exact Nat.one_pos
  · have hlt := t.due_lt_due_fire h
    rw [pending, pending, if_neg (by omega), if_neg (by omega)]
    omega

end Ticker

/-! ### Requests -/

namespace PollRound

variable {period now : Nat} {delay : Nat → Nat}

/-- A request is for a moment that has come. -/
theorem due_le_begun (r : PollRound) : r.due ≤ r.begun := Nat.le_max_right ..

theorem ready_le_begun (r : PollRound) : r.ready ≤ r.begun := Nat.le_max_left ..

/-- The next request begins when the answer is in, at the earliest. -/
theorem begun_add_le_begun_next (r : PollRound) (delay : Nat) :
    r.begun + delay ≤ (r.next delay).begun := (r.next delay).ready_le_begun

@[simp] theorem period_nth (k : Nat) :
    (nth period now delay k).ticker.period = atLeastOne period := by
  induction k with
  | zero => rfl
  | succ k ih => exact (Ticker.period_fire _).trans ih

/-- **The moments that are served are on the grid of the period**, and at least as many periods have
gone by as there have been requests. -/
theorem due_nth (period now : Nat) (delay : Nat → Nat) (k : Nat) :
    ∃ n, k ≤ n ∧ (nth period now delay k).due = now + n * atLeastOne period := by
  induction k with
  | zero => exact ⟨0, Nat.le_refl 0, by rw [Nat.zero_mul]; rfl⟩
  | succ k ih =>
      obtain ⟨n, hkn, hn⟩ := ih
      obtain ⟨m, hm⟩ := (nth period now delay k).ticker.due_fire (due_le_begun _)
      refine ⟨n + (m + 1), by omega, hm.trans ?_⟩
      rw [period_nth, Nat.add_mul n, ← Nat.add_assoc, ← hn]
      rfl

/-- **The requests of a poll loop keep the schedule**, whatever their answers take. -/
theorem schedule_nth (period now : Nat) (delay : Nat → Nat) :
    PollSchedule (atLeastOne period) now delay (fun k => (nth period now delay k).due)
      (fun k => (nth period now delay k).begun) where
  first := Nat.max_self now
  apart _ := begun_add_le_begun_next _ _
  prompt k := by
    obtain ⟨n, -, hn⟩ := due_nth period now delay (k + 1)
    rcases Nat.le_total (nth period now delay (k + 1)).due (nth period now delay (k + 1)).ready
      with h | h
    · exact .inl (Nat.max_eq_left h)
    · exact .inr ⟨n, (Nat.max_eq_right h).trans hn⟩
  grid k :=
    have ⟨n, _, hn⟩ := due_nth period now delay k
    ⟨n, hn⟩
  increasing _ := Ticker.due_lt_due_fire _ (due_le_begun _)
  served _ := due_le_begun _

/-- Answers that take 700 milliseconds each keep a loop with a period of 250 busy: a request begins
whenever one has ended. -/
example : (List.range 4).map (fun k => (nth 250 0 (fun _ => 700) k).begun) =
    [0, 700, 1400, 2100] := by decide

/-- The moments that are served grow. -/
theorem monotone_due : Monotone fun k => (nth period now delay k).due :=
  monotone_nat_of_le_succ fun _ => (Ticker.due_lt_due_fire _ (due_le_begun _)).le

/-- **A later request serves a moment that is a period later, or more.** -/
theorem due_add_le_due {i j : Nat} (h : i < j) :
    (nth period now delay i).due + atLeastOne period ≤ (nth period now delay j).due := by
  have hnext := Ticker.due_add_period_le _ (due_le_begun (nth period now delay i))
  rw [period_nth] at hnext
  exact hnext.trans (monotone_due h)

/-- **Requests that are late at one time serve moments that lie within the grace of the ticker.** A
request that is later than that leaves out all the moments up to its beginning. -/
theorem due_lt_due_add_grace {i j time : Nat} (hi : time ≤ (nth period now delay i).begun)
    (hj : (nth period now delay j).due < time) :
    (nth period now delay j).due < (nth period now delay i).due + Ticker.grace := by
  rcases Nat.lt_or_ge i j with hij | hji
  · by_contra hfar
    have hlate := (nth period now delay i).ticker.lt_due_fire
      (((Nat.not_lt.mp hfar).trans_lt hj).trans_le hi)
    have hnext : (nth period now delay (i + 1)).due ≤ (nth period now delay j).due :=
      monotone_due hij
    exact absurd ((hi.trans_lt hlate).trans_le hnext) hj.le.not_gt
  · exact (monotone_due hji).trans_lt (Nat.lt_add_of_pos_right (by decide))

/-- The times at which nothing is under way grow. -/
theorem monotone_ready : Monotone fun k => (nth period now delay k).ready :=
  monotone_nat_of_le_succ fun _ => (ready_le_begun _).trans (Nat.le_add_right ..)

/-- The times at which requests begin grow. -/
theorem monotone_begun : Monotone fun k => (nth period now delay k).begun :=
  monotone_nat_of_le_succ fun _ => (Nat.le_add_right ..).trans (begun_add_le_begun_next _ _)

/-- The times of the first few are those before a time that lies between the last of them and the
next one. -/
theorem lt_iff_of_monotone {f : Nat → Nat} (hf : Monotone f) {k time : Nat}
    (hbefore : ∀ j, j + 1 = k → f j ≤ time) (hafter : time < f k) (j : Nat) :
    j < k ↔ f j ≤ time := by
  refine ⟨fun hj => ?_, fun hj => hf.reflect_lt (hj.trans_lt hafter)⟩
  exact (hf (Nat.le_sub_one_of_lt hj)).trans (hbefore (k - 1) (by omega))

/-- Between the end of a request and the beginning of the next one, at `k`, so many have begun, and
as many have ended. -/
theorem lt_iff_of_ready_le {k time : Nat} (hready : (nth period now delay k).ready ≤ time)
    (hbegun : time < (nth period now delay k).begun) :
    (∀ j, j < k ↔ (nth period now delay j).begun ≤ time) ∧
      ∀ j, j < k ↔ (nth period now delay j).begun + delay j ≤ time := by
  constructor
  · refine lt_iff_of_monotone monotone_begun (fun j hj => ?_) hbegun
    subst hj
    exact (Nat.le_add_right _ (delay j)).trans hready
  · refine lt_iff_of_monotone (fun i j hij => monotone_ready (Nat.succ_le_succ hij))
      (fun j hj => ?_) (hbegun.trans_le (Nat.le_add_right ..))
    subst hj
    exact hready

/-- Between the beginning of a request, at `k`, and its end, one more has begun than has ended. -/
theorem lt_iff_of_begun_le {k time : Nat} (hbegun : (nth period now delay k).begun ≤ time)
    (hended : time < (nth period now delay k).begun + delay k) :
    (∀ j, j < k + 1 ↔ (nth period now delay j).begun ≤ time) ∧
      ∀ j, j < k ↔ (nth period now delay j).begun + delay j ≤ time := by
  constructor
  · refine lt_iff_of_monotone monotone_begun (fun j hj => ?_) ?_
    · exact Nat.succ.inj hj ▸ hbegun
    · exact hended.trans_le (begun_add_le_begun_next _ _)
  · refine lt_iff_of_monotone (fun i j hij => monotone_ready (Nat.succ_le_succ hij))
      (fun j hj => ?_) hended
    subst hj
    exact (ready_le_begun _).trans hbegun

/-- **A time has room for one request in each of its periods**, and for one more. -/
theorem le_div_of_begun_le {k elapsed : Nat} (h : (nth period now delay k).begun ≤ now + elapsed) :
    k ≤ elapsed / atLeastOne period := by
  obtain ⟨n, hkn, hn⟩ := due_nth period now delay k
  have hdue := (nth period now delay k).due_le_begun
  rw [Nat.le_div_iff_mul_le (atLeastOne_pos period)]
  exact (Nat.mul_le_mul_right _ hkn).trans (by omega)

end PollRound

end FanControl
