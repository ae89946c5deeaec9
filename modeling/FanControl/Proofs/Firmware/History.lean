import FanControl.Firmware.History
import Mathlib.Data.List.Basic
import Mathlib.Tactic.ByContra

/-!
# Every reload is paid for

A reload ends the countdown that the report of a complete image began, and only an update that was
submitted can get to such a report. So over any history there are at most as many reloads as
complete reports that counted, and at most as many of these as accepted submits, however the moves
are mixed with resets, late reports and steps of a countdown that is over.

`Lifecycle.Change` says once what a move can do. What holds of a lifecycle by itself is
`Lifecycle.Fits`; what ties it to its history is `Lifecycle.Tallied`, where the phase stands for
what has been paid and not been used: an update whose verdict is awaited for a submit, a countdown
for a complete report.

## Main results

* `Lifecycle.Change.fits`, `Lifecycle.Tallied.step`: each move keeps the two invariants;
* `Lifecycle.reloads_paid`: the countdown, the firmware and the reloads of every history.
-/

namespace FanControl

namespace Lifecycle

/-! ### What a move can do -/

/-- **What a move can do to a lifecycle**, with the events that it shows. -/
inductive Change (l : Lifecycle) : LifecycleMove → List UpdateEvent → Lifecycle → Prop
  | submitted (image : FirmwareImage) (idle : l.phase = .idle) :
      Change l (.submit [image]) [.uploading]
        { l with phase := .uploading, countdown := none, firmware := none }
  | asked (p : UploadProgress) (awaits : l.phase.awaitsVerdict = true) :
      Change l (.progress p) [] { l with phase := .polling }
  | pending (r : UpdateReport) (polling : l.phase = .polling) (verdict : r.verdict = .pending) :
      Change l (.report r) [.firmwareInfo r.firmware] { l with firmware := some r.firmware }
  | rejected (r : UpdateReport) (polling : l.phase = .polling) (verdict : r.verdict = .failed) :
      Change l (.report r) [.firmwareInfo r.firmware, .uploadFailed]
        { l with phase := .failed, firmware := some r.firmware }
  | completed (r : UpdateReport) (polling : l.phase = .polling)
      (verdict : r.verdict = .complete) :
      Change l (.report r) [.firmwareInfo r.firmware]
        { l with phase := .rebooting, countdown := some l.start, firmware := some r.firmware }
  | counted (k : Nat) (rebooting : l.phase = .rebooting) (count : l.countdown = some (k + 2)) :
      Change l .tick [.rebooting (k + 2)] { l with countdown := some (k + 1) }
  | reloaded (rebooting : l.phase = .rebooting) (count : l.countdown = some 1) :
      Change l .tick [.rebooting 1, .reload] { l with phase := .succeeded, countdown := some 0 }
  | brokenOff (awaits : l.phase.awaitsVerdict = true) :
      Change l .uploadFailed [.uploadFailed] { l with phase := .failed }
  | cleared (still : l.phase ≠ .rebooting) :
      Change l .reset [] { l with phase := .idle, countdown := none }
  | unchanged (m : LifecycleMove) (refused : LifecycleStep.accepts ⟨l, m⟩ = false)
      (ignored : LifecycleStep.honoured? ⟨l, m⟩ = none) : Change l m [] l

/-- What the countdown and the firmware of a lifecycle say, phase by phase. -/
structure Fits (l : Lifecycle) : Prop where
  rebooting : l.phase = .rebooting ↔ ∃ k, l.countdown = some k ∧ 1 ≤ k ∧ k ≤ l.start
  succeeded : l.phase = .succeeded ↔ l.countdown = some 0
  otherwise : l.phase ≠ .rebooting ∧ l.phase ≠ .succeeded ↔ l.countdown = none
  firmware : l.phase = .rebooting ∨ l.phase = .succeeded → l.firmware.isSome = true

variable {l l' : Lifecycle} {m : LifecycleMove} {events : List UpdateEvent}

/-- Each move is one of the changes. -/
theorem apply_change (hl : l.Fits) (m : LifecycleMove) :
    l.Change m (l.apply m).1 (l.apply m).2 := by
  cases m with
  | submit files =>
      by_cases hidle : l.phase = .idle
      · match files with
        | [image] => simpa [apply, submit, hidle] using Change.submitted image hidle
        | [] | _ :: _ :: _ =>
            simpa [apply, submit, hidle] using
              Change.unchanged (l := l) (.submit _)
                (by simp [LifecycleStep.accepts, submit, hidle, Except.isOk, Except.toBool]) rfl
      · simpa [apply, submit, hidle] using
          Change.unchanged (l := l) (.submit files)
            (by simp [LifecycleStep.accepts, submit, hidle, Except.isOk, Except.toBool]) rfl
  | progress p =>
      cases hawaits : l.phase.awaitsVerdict with
      | false =>
          simpa [apply, progress, hawaits] using Change.unchanged (l := l) (.progress p) rfl rfl
      | true =>
          by_cases htotal : p.total = none
          · simpa [apply, progress, hawaits, htotal] using
              Change.unchanged (l := l) (.progress p) rfl rfl
          · simpa [apply, progress, hawaits, htotal] using Change.asked p hawaits
  | report r =>
      by_cases hp : l.phase = .polling
      · cases hv : r.verdict with
        | pending => simpa [apply, report, hp, hv] using Change.pending r hp hv
        | failed => simpa [apply, report, hp, hv] using Change.rejected r hp hv
        | complete => simpa [apply, report, hp, hv] using Change.completed r hp hv
      · simpa [apply, report, hp] using
          Change.unchanged (l := l) (.report r) rfl (by simp [LifecycleStep.honoured?, hp])
  | tick =>
      by_cases hp : l.phase = .rebooting
      · obtain ⟨k, hcount, hpos, -⟩ := hl.rebooting.mp hp
        match k with
        | 1 => simpa [apply, tick, hp, hcount] using Change.reloaded hp hcount
        | k + 2 => simpa [apply, tick, hp, hcount] using Change.counted k hp hcount
      · rw [apply, tick_of_ne_rebooting hp]
        exact .unchanged .tick rfl rfl
  | uploadFailed =>
      cases hawaits : l.phase.awaitsVerdict with
      | false =>
          simpa [apply, uploadFailed, hawaits] using
            Change.unchanged (l := l) .uploadFailed rfl rfl
      | true => simpa [apply, uploadFailed, hawaits] using Change.brokenOff hawaits
  | reset =>
      by_cases hp : l.phase = .rebooting
      · simpa [apply, reset, hp] using Change.unchanged (l := l) .reset rfl rfl
      · simpa [apply, reset, hp] using Change.cleared hp

/-! ### The lifecycle by itself -/

/-- The countdown and the firmware of a lifecycle fit its phase at the beginning. -/
theorem fits_new (start : Nat) : (new start).Fits := by
  constructor <;> simp [new]

/-- An update whose verdict is awaited has no countdown. -/
theorem Fits.countdown_of_awaits (hl : l.Fits) (h : l.phase.awaitsVerdict = true) :
    l.countdown = none := by
  refine hl.otherwise.mp ⟨?_, ?_⟩
  · intro hp
    simp [hp, UpdatePhase.awaitsVerdict] at h
  · intro hp
    simp [hp, UpdatePhase.awaitsVerdict] at h

/-- No change moves the place where a countdown begins. -/
theorem Change.start_eq (h : l.Change m events l') : l'.start = l.start := by
  cases h <;> rfl

/-- **Every change keeps the countdown and the firmware in step with the phase.** -/
theorem Change.fits (h : l.Change m events l') (hl : l.Fits) : l'.Fits := by
  cases h with
  | submitted | cleared => constructor <;> simp
  | asked p awaits => constructor <;> simp [hl.countdown_of_awaits awaits]
  | pending r polling =>
      have hcount : l.countdown = none := hl.countdown_of_awaits (by rw [polling]; rfl)
      constructor <;> simp [polling, hcount]
  | rejected r polling =>
      have hcount : l.countdown = none := hl.countdown_of_awaits (by rw [polling]; rfl)
      constructor <;> simp [hcount]
  | completed =>
      have hpos := l.start_pos
      constructor <;> simp <;> omega
  | counted k rebooting count =>
      obtain ⟨_, hcount, -, hle⟩ := hl.rebooting.mp rebooting
      obtain rfl := Option.some.inj (count.symm.trans hcount)
      constructor <;> simp [rebooting, hl.firmware (.inl rebooting)]
      omega
  | reloaded rebooting => constructor <;> simp [hl.firmware (.inl rebooting)]
  | brokenOff awaits => constructor <;> simp [hl.countdown_of_awaits awaits]
  | unchanged => exact hl

/-! ### The lifecycle and its history -/

open LifecycleStep

/-- The last complete report that counted, and `n` steps of the countdown since. -/
def CountedSince (history : List LifecycleStep) (n : Nat) : Prop :=
  ∃ earlier r since, history = earlier ++ r :: since ∧ r.completes = true ∧
    (∀ s ∈ since, s.completes = false) ∧ since.countP counts = n

/-- **What ties a lifecycle to its history**: a running countdown is a complete report that has not
led to a reload, and an update whose verdict is awaited is a submit that has not led to a complete
report. -/
structure Tallied (l : Lifecycle) (history : List LifecycleStep) : Prop where
  balance : history.countP reloads + (if l.phase = .rebooting then 1 else 0) =
    history.countP completes
  budget : history.countP completes + (if l.phase.awaitsVerdict then 1 else 0) ≤
    history.countP accepts
  firmware : ∀ firmware, l.firmware = some firmware →
    (history.filterMap honoured?).getLast?.map UpdateReport.firmware = some firmware
  countdown : ∀ k, l.countdown = some k → ∃ n, CountedSince history n ∧ n + k = l.start

/-- The steps of the countdown are counted from one complete report, the last one. -/
theorem CountedSince.unique {history : List LifecycleStep} {n n' : Nat}
    (h : CountedSince history n) (h' : CountedSince history n') : n = n' := by
  obtain ⟨earlier, r, since, hsplit, hr, hsince, rfl⟩ := h
  obtain ⟨earlier', r', since', hsplit', hr', hsince', rfl⟩ := h'
  have hlast {since : List LifecycleStep} (hsince : ∀ s ∈ since, s.completes = false)
      {r : LifecycleStep} (hr : r.completes = true) : r ∉ since := by
    intro hmem
    rw [hsince r hmem] at hr
    cases hr
  rcases List.append_eq_append_iff.mp (hsplit.symm.trans hsplit') with
    ⟨between, -, heq⟩ | ⟨between, -, heq⟩
  · cases between with
    | nil => rw [(List.cons.inj heq).2]
    | cons s between =>
        have hmem : r' ∈ since := by simp [(List.cons.inj heq).2]
        exact absurd hmem (hlast hsince hr')
  · cases between with
    | nil => rw [(List.cons.inj heq).2]
    | cons s between =>
        have hmem : r ∈ since' := by simp [(List.cons.inj heq).2]
        exact absurd hmem (hlast hsince' hr)

/-- A complete report that counts is the last one. -/
theorem countedSince_of_completes (history : List LifecycleStep) {s : LifecycleStep}
    (h : s.completes = true) : CountedSince (history ++ [s]) 0 :=
  ⟨history, s, [], rfl, h, List.forall_mem_nil _, rfl⟩

/-- A step that is no complete report is one more since the last one, if it is a step of the
countdown. -/
theorem CountedSince.append {history : List LifecycleStep} {n : Nat} (h : CountedSince history n)
    {s : LifecycleStep} (hs : s.completes = false) :
    CountedSince (history ++ [s]) (n + if s.counts then 1 else 0) := by
  obtain ⟨earlier, r, since, rfl, hr, hsince, rfl⟩ := h
  refine ⟨earlier, r, since ++ [s], by simp, hr, ?_, ?_⟩
  · intro x hx
    rcases List.mem_append.mp hx with hx | hx
    · exact hsince x hx
    · obtain rfl := List.mem_singleton.mp hx
      exact hs
  · simp [List.countP_append, List.countP_singleton]

/-! ### What a change counts for -/

/-- An update whose verdict is awaited is in one of two phases. -/
theorem ne_rebooting_of_awaits (h : l.phase.awaitsVerdict = true) : l.phase ≠ .rebooting := by
  intro hp
  simp [hp, UpdatePhase.awaitsVerdict] at h

/-- A report that counts is complete by its verdict. -/
theorem completes_report {r : UpdateReport} (polling : l.phase = .polling) :
    completes ⟨l, .report r⟩ = (r.verdict == .complete) := by
  simp [completes, honoured?, polling]

/-- A step counts down only by showing something. -/
theorem counts_of_events_nil {s : LifecycleStep} (h : s.events = []) : s.counts = false := by
  obtain ⟨l, m⟩ := s
  cases m with
  | tick =>
      have htick : l.tick.1 = [] := h
      simp [counts, htick]
  | submit | progress | report | uploadFailed | reset => rfl

/-- **A complete report begins a countdown, and only a reload ends it.** -/
theorem Change.balance (h : l.Change m events l') (hevents : events = (l.apply m).1) :
    (if reloads ⟨l, m⟩ then 1 else 0) + (if l'.phase = .rebooting then 1 else 0) =
      (if completes ⟨l, m⟩ then 1 else 0) + (if l.phase = .rebooting then 1 else 0) := by
  have hreloads : reloads ⟨l, m⟩ = events.contains .reload := by
    rw [hevents]
    rfl
  cases h with
  | submitted image idle => simp [hreloads, completes, honoured?, idle]
  | asked p awaits =>
      simp [hreloads, completes, honoured?, ne_rebooting_of_awaits awaits]
  | pending r polling verdict | rejected r polling verdict | completed r polling verdict =>
      simp [hreloads, completes_report polling, polling, verdict]
  | counted k rebooting | reloaded rebooting =>
      simp [hreloads, completes, honoured?, rebooting]
  | brokenOff awaits => simp [hreloads, completes, honoured?, ne_rebooting_of_awaits awaits]
  | cleared still => simp [hreloads, completes, honoured?, still]
  | unchanged m refused ignored => simp [hreloads, completes, ignored]

/-- **A submit makes an update whose verdict is awaited, and a complete report uses it up.** -/
theorem Change.budget (h : l.Change m events l') :
    (if completes ⟨l, m⟩ then 1 else 0) + (if l'.phase.awaitsVerdict then 1 else 0) ≤
      (if accepts ⟨l, m⟩ then 1 else 0) + (if l.phase.awaitsVerdict then 1 else 0) := by
  cases h with
  | submitted image idle =>
      simp [accepts, submit, completes, honoured?, idle, UpdatePhase.awaitsVerdict, Except.isOk,
        Except.toBool]
  | asked p awaits =>
      have hpolling : UpdatePhase.polling.awaitsVerdict = true := rfl
      simp [awaits, completes, honoured?, hpolling]
  | pending r polling verdict | rejected r polling verdict | completed r polling verdict =>
      simp [completes_report polling, polling, verdict, UpdatePhase.awaitsVerdict]
  | counted k rebooting | reloaded rebooting =>
      simp [completes, honoured?, rebooting, UpdatePhase.awaitsVerdict]
  | brokenOff awaits =>
      have hfailed : UpdatePhase.failed.awaitsVerdict = false := rfl
      simp [awaits, completes, honoured?, hfailed]
  | cleared still => simp [completes, honoured?, UpdatePhase.awaitsVerdict]
  | unchanged m refused ignored => simp [completes, ignored]

/-- **The firmware of the last report that counted is kept.** -/
theorem Change.firmware_append (h : l.Change m events l') {history : List LifecycleStep}
    (hl : ∀ firmware, l.firmware = some firmware →
      (history.filterMap honoured?).getLast?.map UpdateReport.firmware = some firmware) :
    ∀ firmware, l'.firmware = some firmware →
      ((history ++ [LifecycleStep.mk l m]).filterMap honoured?).getLast?.map
        UpdateReport.firmware = some firmware := by
  intro firmware hf
  cases h with
  | submitted image idle => cases hf
  | pending r polling | rejected r polling | completed r polling =>
      simpa [List.filterMap_append, honoured?, polling] using hf
  | asked | counted | reloaded | brokenOff | cleared =>
      simpa [List.filterMap_append, honoured?] using hl firmware hf
  | unchanged m refused ignored =>
      simpa [List.filterMap_append, ignored] using hl firmware hf

/-- **The steps of a countdown since its report and what is left of it make up the whole.** -/
theorem Change.countdown_append (h : l.Change m events l') (hevents : events = (l.apply m).1)
    (hfits : l.Fits) {history : List LifecycleStep}
    (hl : ∀ k, l.countdown = some k → ∃ n, CountedSince history n ∧ n + k = l.start) :
    ∀ k, l'.countdown = some k →
      ∃ n, CountedSince (history ++ [⟨l, m⟩]) n ∧ n + k = l'.start := by
  intro k hk
  cases h with
  | submitted | cleared => cases hk
  | asked p awaits | brokenOff awaits =>
      rw [hfits.countdown_of_awaits awaits] at hk
      cases hk
  | pending r polling | rejected r polling =>
      rw [hfits.countdown_of_awaits (by rw [polling]; rfl)] at hk
      cases hk
  | completed r polling verdict =>
      obtain rfl := Option.some.inj hk
      refine ⟨0, countedSince_of_completes history ?_, Nat.zero_add _⟩
      simp [completes_report polling, verdict]
  | counted j rebooting count =>
      obtain rfl := Option.some.inj hk
      obtain ⟨n, hsince, hn⟩ := hl _ count
      have hcounts : counts ⟨l, .tick⟩ = true := by simp [counts, tick, rebooting, count]
      refine ⟨n + 1, by simpa [hcounts] using hsince.append (s := ⟨l, .tick⟩) rfl, ?_⟩
      dsimp only
      omega
  | reloaded rebooting count =>
      obtain rfl := Option.some.inj hk
      obtain ⟨n, hsince, hn⟩ := hl _ count
      have hcounts : counts ⟨l, .tick⟩ = true := by simp [counts, tick, rebooting, count]
      exact ⟨n + 1, by simpa [hcounts] using hsince.append (s := ⟨l, .tick⟩) rfl, hn⟩
  | unchanged m refused ignored =>
      obtain ⟨n, hsince, hn⟩ := hl k hk
      have hcounts : counts ⟨l, m⟩ = false := counts_of_events_nil hevents.symm
      have hcompletes : completes ⟨l, m⟩ = false := by simp [completes, ignored]
      exact ⟨n, by simpa [hcounts] using hsince.append hcompletes, hn⟩

/-! ### Histories -/

/-- A lifecycle at its beginning is tied to the empty history. -/
theorem tallied_new (start : Nat) : (new start).Tallied [] := by
  constructor <;> simp [new, UpdatePhase.awaitsVerdict]

/-- **Each move keeps the tally.** -/
theorem Tallied.step {history : List LifecycleStep} (h : l.Tallied history) (hl : l.Fits)
    (m : LifecycleMove) : (l.apply m).2.Tallied (history ++ [⟨l, m⟩]) := by
  have hchange := apply_change hl m
  have hbalance := hchange.balance rfl
  have hbudget := hchange.budget
  refine ⟨?_, ?_, hchange.firmware_append h.firmware, hchange.countdown_append rfl hl h.countdown⟩
  · rw [List.countP_append, List.countP_append, List.countP_singleton, List.countP_singleton,
      ← h.balance]
    omega
  · have := h.budget
    rw [List.countP_append, List.countP_append, List.countP_singleton, List.countP_singleton]
    omega

/-- **Every run of moves keeps the tally.** -/
theorem Tallied.run {history : List LifecycleStep} (h : l.Tallied history) (hl : l.Fits)
    (moves : List LifecycleMove) : (l.after moves).Tallied (history ++ l.history moves) := by
  induction moves generalizing l history with
  | nil => simpa [Lifecycle.after, Lifecycle.history] using h
  | cons m moves ih =>
      have htallied := ih (h.step hl m) ((apply_change hl m).fits hl)
      simpa [Lifecycle.after, Lifecycle.history] using htallied

/-- Every run of moves keeps the countdown and the firmware in step with the phase. -/
theorem fits_after (hl : l.Fits) (moves : List LifecycleMove) : (l.after moves).Fits := by
  induction moves generalizing l with
  | nil => exact hl
  | cons m moves ih => exact ih ((apply_change hl m).fits hl)

/-- Where a countdown begins does not change. -/
theorem start_after (hl : l.Fits) (moves : List LifecycleMove) :
    (l.after moves).start = l.start := by
  induction moves generalizing l with
  | nil => rfl
  | cons m moves ih =>
      have hchange := apply_change hl m
      exact (ih (hchange.fits hl)).trans hchange.start_eq

/-- A step of a history meets what the moves before it lead to. -/
theorem exists_of_history_eq {moves : List LifecycleMove} {before after : List LifecycleStep}
    {s : LifecycleStep} (h : l.history moves = before ++ s :: after) :
    ∃ ms m ns, moves = ms ++ m :: ns ∧ before = l.history ms ∧ s = ⟨l.after ms, m⟩ ∧
      after = ((l.after ms).apply m).2.history ns := by
  induction before generalizing l moves with
  | nil =>
      cases moves with
      | nil => cases h
      | cons m moves =>
          obtain ⟨rfl, rfl⟩ := List.cons.inj h
          exact ⟨[], m, moves, rfl, rfl, rfl, rfl⟩
  | cons b before ih =>
      cases moves with
      | nil => cases h
      | cons m moves =>
          obtain ⟨rfl, hrest⟩ := List.cons.inj h
          obtain ⟨ms, m', ns, rfl, rfl, rfl, rfl⟩ := ih hrest
          exact ⟨m :: ms, m', ns, rfl, rfl, rfl, rfl⟩

/-! ### Reloads -/

/-- A reload is the last step of a countdown. -/
theorem reloads_iff (hl : l.Fits) (m : LifecycleMove) :
    reloads ⟨l, m⟩ = true ↔ counts ⟨l, m⟩ = true ∧ l.countdown = some 1 := by
  have hchange := apply_change hl m
  generalize hevents : (l.apply m).1 = events at hchange
  generalize (l.apply m).2 = l' at hchange
  have hreloads : reloads ⟨l, m⟩ = events.contains .reload := by
    rw [← hevents]
    rfl
  cases hchange with
  | submitted | asked | pending | rejected | completed | brokenOff | cleared =>
      simp [hreloads, counts]
  | counted k rebooting count => simp [hreloads, count]
  | reloaded rebooting count => simp [hreloads, counts, tick, rebooting, count]
  | unchanged m => simp [hreloads, counts_of_events_nil (s := ⟨l, m⟩) hevents]

/-- Whether no verdict is awaited and no countdown is running. -/
def Rests (l : Lifecycle) : Prop := l.phase.awaitsVerdict = false ∧ l.phase ≠ .rebooting

/-- **Only an accepted submit ends a rest.** -/
theorem Change.rests (h : l.Change m events l') (hl : l.Rests)
    (hrefused : accepts ⟨l, m⟩ = false) : l'.Rests := by
  obtain ⟨hawaits, hphase⟩ := hl
  cases h with
  | submitted image idle =>
      simp [accepts, submit, idle, Except.isOk, Except.toBool] at hrefused
  | asked p awaits | brokenOff awaits =>
      rw [awaits] at hawaits
      cases hawaits
  | pending r polling | rejected r polling | completed r polling =>
      simp [polling, UpdatePhase.awaitsVerdict] at hawaits
  | counted k rebooting | reloaded rebooting => exact absurd rebooting hphase
  | cleared => exact ⟨rfl, by simp⟩
  | unchanged => exact ⟨hawaits, hphase⟩

/-- Nothing but an accepted submit leads from a rest to a reload. -/
theorem Rests.after (hl : l.Rests) (hfits : l.Fits) (moves : List LifecycleMove)
    (hrefused : ∀ s ∈ l.history moves, s.accepts = false) : (l.after moves).Rests := by
  induction moves generalizing l with
  | nil => exact hl
  | cons m moves ih =>
      have hchange := apply_change hfits m
      have hrests := hchange.rests hl (hrefused _ List.mem_cons_self)
      exact ih hrests (hchange.fits hfits) fun s hs => hrefused s (List.mem_cons_of_mem _ hs)

/-- An update rests after a reload. -/
theorem rests_of_reloads (hl : l.Fits) (h : reloads ⟨l, m⟩ = true) : (l.apply m).2.Rests := by
  obtain ⟨hcounts, hcount⟩ := (reloads_iff hl m).mp h
  have hp : l.phase = .rebooting :=
    hl.rebooting.mpr ⟨1, hcount, Nat.le_refl 1, l.start_pos⟩
  cases m with
  | tick =>
      refine ⟨?_, ?_⟩ <;> simp [apply, tick, hp, hcount, UpdatePhase.awaitsVerdict]
  | submit | progress | report | uploadFailed | reset => cases hcounts

/-- A change shows a reload at most once. -/
theorem Change.count_reload (h : l.Change m events l') :
    events.count .reload = if events.contains .reload then 1 else 0 := by
  cases h <;> rfl

/-- The reloads that a history shows are its steps that reload. -/
theorem count_reload_history (hl : l.Fits) (moves : List LifecycleMove) :
    ((l.history moves).flatMap LifecycleStep.events).count .reload =
      (l.history moves).countP reloads := by
  induction moves generalizing l with
  | nil => rfl
  | cons m moves ih =>
      have hchange := apply_change hl m
      have hstep : (LifecycleStep.events ⟨l, m⟩).count .reload = if reloads ⟨l, m⟩ then 1 else 0 :=
        hchange.count_reload
      rw [history, List.flatMap_cons, List.count_append, hstep, ih (hchange.fits hl),
        List.countP_cons, Nat.add_comm]

/-- A step reloads just when it is the last one that the countdown of its report has. -/
theorem Tallied.reloads_iff {history : List LifecycleStep} (h : l.Tallied history) (hl : l.Fits)
    (m : LifecycleMove) :
    reloads ⟨l, m⟩ = true ↔
      counts ⟨l, m⟩ = true ∧ ∃ n, CountedSince history n ∧ n + 1 = l.start := by
  rw [Lifecycle.reloads_iff hl]
  refine and_congr_right fun hcounts => ⟨h.countdown 1, ?_⟩
  rintro ⟨n, hsince, hn⟩
  -- a step counts only in a countdown, and what is left of it is known from the history
  have hp : l.phase = .rebooting := by
    by_contra hp
    cases m with
    | tick => simp [counts, tick_of_ne_rebooting hp] at hcounts
    | submit | progress | report | uploadFailed | reset => cases hcounts
  obtain ⟨k, hcount, -, -⟩ := hl.rebooting.mp hp
  obtain ⟨n', hsince', hn'⟩ := h.countdown k hcount
  have := hsince.unique hsince'
  rw [hcount, show k = 1 by omega]

/-- Between two reloads an update is submitted. -/
theorem exists_accepts_between (hl : l.Fits) {m m' : LifecycleMove} {between : List LifecycleMove}
    (h : reloads ⟨l, m⟩ = true)
    (h' : reloads ⟨(l.apply m).2.after between, m'⟩ = true) :
    ∃ s ∈ (l.apply m).2.history between, s.accepts = true := by
  by_contra hnone
  have hfits : (l.apply m).2.Fits := (apply_change hl m).fits hl
  have hfits' : ((l.apply m).2.after between).Fits := fits_after hfits between
  have hrests := (rests_of_reloads hl h).after hfits between
    fun s hs => by simpa using fun haccepts => hnone ⟨s, hs, haccepts⟩
  have hcount := ((Lifecycle.reloads_iff hfits' m').mp h').2
  exact hrests.2 (hfits'.rebooting.mpr ⟨1, hcount, Nat.le_refl 1, Lifecycle.start_pos _⟩)

/-- **The countdown, the firmware and the reloads of every history.** The countdown runs in the
phase `rebooting` and stands at zero after it, the firmware is that of the last report that
counted, and there are at most as many reloads as complete reports and at most as many of these as
accepted submits: a reload is the last step of the countdown that its report began, and between
two of them an update is submitted. -/
theorem reloads_paid (start : Nat) (moves : List LifecycleMove) :
    let c := atLeastOne start
    let l := (new start).after moves
    let h := (new start).history moves
    (l.phase = .rebooting ↔ ∃ k, l.countdown = some k ∧ 1 ≤ k ∧ k ≤ c) ∧
    (l.phase = .succeeded ↔ l.countdown = some 0) ∧
    (l.phase ≠ .rebooting ∧ l.phase ≠ .succeeded ↔ l.countdown = none) ∧
    (l.phase = .rebooting ∨ l.phase = .succeeded → l.firmware.isSome = true) ∧
    (∀ firmware, l.firmware = some firmware →
      (h.filterMap honoured?).getLast?.map UpdateReport.firmware = some firmware) ∧
    (h.flatMap LifecycleStep.events).count .reload ≤ h.countP completes ∧
    h.countP completes ≤ h.countP accepts ∧
    (∀ earlier s later, h = earlier ++ s :: later →
      (s.reloads = true ↔ s.counts = true ∧ ∃ n, CountedSince earlier n ∧ n + 1 = c)) ∧
    (∀ earlier s between s' later, h = earlier ++ s :: (between ++ s' :: later) →
      s.reloads = true → s'.reloads = true → ∃ a ∈ between, a.accepts = true) := by
  intro c l h
  have hnew := fits_new start
  have hstart (ms : List LifecycleMove) : ((new start).after ms).start = c := start_after hnew ms
  have hfits : l.Fits := fits_after hnew moves
  have htallied : l.Tallied h := (tallied_new start).run hnew moves
  refine ⟨?_, hfits.succeeded, hfits.otherwise, hfits.firmware, htallied.firmware,
    ?_, Nat.le_of_add_right_le htallied.budget, ?_, ?_⟩
  · rw [hfits.rebooting, hstart]
  · rw [count_reload_history hnew]
    exact Nat.le.intro htallied.balance
  · intro earlier s later hsplit
    obtain ⟨ms, m, ns, -, rfl, rfl, -⟩ := exists_of_history_eq hsplit
    rw [← hstart ms]
    exact ((tallied_new start).run hnew ms).reloads_iff (fits_after hnew ms) m
  · intro earlier s between s' later hsplit hs hs'
    obtain ⟨ms, m, ns, -, rfl, rfl, hrest⟩ := exists_of_history_eq hsplit
    obtain ⟨ms', m', ns', -, rfl, rfl, -⟩ := exists_of_history_eq hrest.symm
    exact exists_accepts_between (fits_after hnew ms) hs hs'

end Lifecycle

end FanControl
