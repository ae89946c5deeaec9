import FanControl.Session.Call

/-!
# The account of an update

What an update shows follows from what its device has answered. This module says how, phase by
phase: `Account l answers events` holds of a lifecycle, the answers so far and the events so far,
and every transition of the lifecycle keeps it.

An update tells of each answered query, in order, and then at most one thing more: that it failed,
or the countdown. The countdown is stated by what is still to come of it: in the phase
`rebooting` the events so far **and the rest of the countdown** are the telling of the answers and
the whole countdown.

## Main results

* `decision?_append`: a later answer decides only if no earlier one has;
* `Account.progress`, `Account.report`, `Account.miss`, `Account.tick`, `Account.uploadFailed`: the
  account is kept by every transition.
-/

namespace FanControl

/-! ### Answers -/

/-- The reports among the answers. -/
def answered (answers : List (Except Failure UpdateReport)) : List UpdateReport :=
  answers.filterMap Except.toOption

/-- The verdict that decides the update: the first one that is not `pending`. -/
def decision? (answers : List (Except Failure UpdateReport)) : Option Verdict :=
  ((answered answers).map (·.verdict)).find? (· ≠ .pending)

/-- What the answers make an update tell, after the start of the upload. -/
def told (answers : List (Except Failure UpdateReport)) : List UpdateEvent :=
  .uploading :: (answered answers).map fun r => .firmwareInfo r.firmware

/-- A whole countdown, and the reload at its end. -/
def countdownFrom : Nat → List UpdateEvent
  | 0 => [.reload]
  | k + 1 => .rebooting (k + 1) :: countdownFrom k

/-- **A later answer decides only if no earlier one has.** -/
theorem decision?_append (as bs : List (Except Failure UpdateReport)) :
    decision? (as ++ bs) = (decision? as).or (decision? bs) := by
  simp only [decision?, answered, List.filterMap_append, List.map_append, List.find?_append]

/-- A query that failed is no report. -/
@[simp] theorem answered_append_error (as : List (Except Failure UpdateReport)) (e : Failure) :
    answered (as ++ [.error e]) = answered as := by
  simp [answered, Except.toOption]

/-- A report comes after those before it. -/
@[simp] theorem answered_append_ok (as : List (Except Failure UpdateReport)) (r : UpdateReport) :
    answered (as ++ [.ok r]) = answered as ++ [r] := by
  simp [answered, Except.toOption]

/-- A query that failed decides nothing. -/
@[simp] theorem decision?_error (e : Failure) : decision? [.error e] = none := rfl

/-- A report decides unless it is still pending. -/
theorem decision?_ok (r : UpdateReport) :
    decision? [.ok r] = if r.verdict = .pending then none else some r.verdict := by
  by_cases h : r.verdict = .pending <;> simp [decision?, answered, Except.toOption, h]

/-- A query that failed is not told of. -/
@[simp] theorem told_append_error (as : List (Except Failure UpdateReport)) (e : Failure) :
    told (as ++ [.error e]) = told as := by
  simp [told]

/-- A report is told of after everything before it. -/
@[simp] theorem told_append_ok (as : List (Except Failure UpdateReport)) (r : UpdateReport) :
    told (as ++ [.ok r]) = told as ++ [.firmwareInfo r.firmware] := by
  simp [told]

/-- An update that some answer decides has told of it. -/
theorem answered_ne_nil_of_decision? {as : List (Except Failure UpdateReport)} {v : Verdict}
    (h : decision? as = some v) : answered as ≠ [] := by
  intro hnil
  simp [decision?, hnil] at h

/-! ### Accounts -/

/-- **The account of an update**: what its phase says about the answers, and how the events follow
from them. -/
inductive Account (l : Lifecycle) (answers : List (Except Failure UpdateReport))
    (events : List UpdateEvent) : Prop
  | uploading (phase : l.phase = .uploading) (unasked : answers = [])
      (shown : events = told answers)
  | polling (phase : l.phase = .polling) (undecided : decision? answers = none)
      (shown : events = told answers)
  | rebooting (k : Nat) (phase : l.phase = .rebooting) (count : l.countdown = some k)
      (pos : 0 < k) (decided : decision? answers = some .complete)
      (shown : events ++ countdownFrom k = told answers ++ countdownFrom l.start)
  | succeeded (phase : l.phase = .succeeded) (decided : decision? answers = some .complete)
      (shown : events = told answers ++ countdownFrom l.start)
  | rejected (phase : l.phase = .failed) (decided : decision? answers = some .failed)
      (shown : events = told answers ++ [.uploadFailed])
  | brokenOff (phase : l.phase = .failed) (undecided : decision? answers = none)
      (shown : events = told answers ++ [.uploadFailed])

namespace Account

variable {l : Lifecycle} {answers : List (Except Failure UpdateReport)} {events : List UpdateEvent}

/-- While polling, nothing has been decided. -/
theorem undecided_of_polling (h : Account l answers events) (hp : l.phase = .polling) :
    decision? answers = none ∧ events = told answers := by
  cases h with
  | polling _ undecided shown => exact ⟨undecided, shown⟩
  | uploading phase | rebooting _ phase | succeeded phase | rejected phase | brokenOff phase =>
      rw [hp] at phase
      cases phase

/-- An update succeeds by a verdict, and has told of the whole countdown. -/
theorem decided_of_succeeded (h : Account l answers events) (hp : l.phase = .succeeded) :
    decision? answers = some .complete ∧ events = told answers ++ countdownFrom l.start := by
  cases h with
  | succeeded _ decided shown => exact ⟨decided, shown⟩
  | uploading phase | polling phase | rebooting _ phase | rejected phase | brokenOff phase =>
      rw [hp] at phase
      cases phase

/-- An update that failed has told so at the end. -/
theorem shown_of_failed (h : Account l answers events) (hp : l.phase = .failed) :
    events = told answers ++ [.uploadFailed] := by
  cases h with
  | rejected _ _ shown | brokenOff _ _ shown => exact shown
  | uploading phase | polling phase | rebooting _ phase | succeeded phase =>
      rw [hp] at phase
      cases phase

/-- While rebooting, a countdown is running. -/
theorem countdown_of_rebooting (h : Account l answers events) (hp : l.phase = .rebooting) :
    ∃ k, l.countdown = some (k + 1) := by
  cases h with
  | rebooting k _ count pos => exact ⟨k - 1, by rw [count, Nat.sub_add_cancel pos]⟩
  | uploading phase | polling phase | succeeded phase | rejected phase | brokenOff phase =>
      rw [hp] at phase
      cases phase

/-- Progress of the upload keeps the account. -/
theorem progress (h : Account l answers events) (p : UploadProgress) :
    Account (l.progress p).2 answers events := by
  rw [Lifecycle.progress]
  split
  · exact h
  · split
    · exact h
    · next hawaits _ =>
      cases h with
      | uploading phase unasked shown =>
          subst unasked
          exact .polling rfl rfl shown
      | polling _ undecided shown => exact .polling rfl undecided shown
      | rebooting _ phase | succeeded phase | rejected phase | brokenOff phase =>
          simp [phase, UpdatePhase.awaitsVerdict] at hawaits

/-- A report keeps the account. -/
theorem report (h : Account l answers events) (hp : l.phase = .polling) (r : UpdateReport) :
    Account (l.report r).2 (answers ++ [.ok r]) (events ++ (l.report r).1) := by
  obtain ⟨undecided, rfl⟩ := h.undecided_of_polling hp
  have decided : decision? (answers ++ [.ok r]) =
      if r.verdict = .pending then none else some r.verdict := by
    rw [decision?_append, undecided, Option.none_or, decision?_ok]
  simp only [Lifecycle.report, hp, ne_eq, not_true_eq_false, if_false]
  cases hv : r.verdict with
  | failed => exact .rejected rfl (by simpa [hv] using decided) (by simp)
  | pending => exact .polling rfl (by simpa [hv] using decided) (by simp)
  | complete =>
      exact .rebooting l.start rfl rfl l.start_pos (by simpa [hv] using decided) (by simp)

/-- A query that failed keeps the account. -/
theorem miss (h : Account l answers events) (hp : l.phase = .polling) (e : Failure) :
    Account l (answers ++ [.error e]) events := by
  obtain ⟨undecided, rfl⟩ := h.undecided_of_polling hp
  exact .polling hp (by simp [decision?_append, undecided]) (by simp)

/-- A step of the countdown keeps the account. -/
theorem tick (h : Account l answers events) :
    Account l.tick.2 answers (events ++ l.tick.1) := by
  cases h with
  | rebooting k phase count pos decided shown =>
      obtain ⟨k, rfl⟩ : ∃ j, k = j + 1 := ⟨k - 1, by omega⟩
      simp only [Lifecycle.tick, phase, count, Nat.add_sub_cancel]
      split
      · next hk =>
        obtain rfl : k = 0 := by omega
        exact .succeeded rfl decided (by simpa [countdownFrom] using shown)
      · next hk =>
        exact .rebooting k rfl rfl (by omega) decided
          (by simpa [countdownFrom] using shown)
  | uploading phase unasked shown =>
      simpa [Lifecycle.tick, phase] using uploading phase unasked shown
  | polling phase undecided shown =>
      simpa [Lifecycle.tick, phase] using polling phase undecided shown
  | succeeded phase decided shown =>
      simpa [Lifecycle.tick, phase] using succeeded phase decided shown
  | rejected phase decided shown =>
      simpa [Lifecycle.tick, phase] using rejected phase decided shown
  | brokenOff phase undecided shown =>
      simpa [Lifecycle.tick, phase] using brokenOff phase undecided shown

/-- An upload that failed while nothing was decided keeps the account. -/
theorem uploadFailed (h : Account l answers events) (hp : l.phase = .polling) :
    Account l.uploadFailed.2 answers (events ++ l.uploadFailed.1) := by
  obtain ⟨undecided, rfl⟩ := h.undecided_of_polling hp
  simp only [Lifecycle.uploadFailed, hp, UpdatePhase.awaitsVerdict, if_true]
  exact .brokenOff rfl undecided rfl

end Account

end FanControl
