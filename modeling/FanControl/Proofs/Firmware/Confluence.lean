import FanControl.Proofs.Firmware.Outcome
import FanControl.Proofs.Firmware.Termination

/-!
# The order in which an update takes things up

When the upload request has ended, three things may be ready at the same moment: the end of the
request, reports that have not been seen, and a step of the countdown. Any of them may be taken up
first, and each may lead to a query or make another one needless. This module shows that **the order
does not matter**.

What the world does is laid down by an `UpdateScript`: how the request ends, and what becomes of
each query, so that two runs which keep to one script differ in their order and in nothing else.
Once no more reports come in, it is settled how many queries an update will have made in the end:
one for each occasion that is left, up to the first decisive answer. No move changes this number
(`UpdateRun.Reported.answersAtEnd_of_move`), so all runs get the same answers; and what an update
has come to, what it has shown and what it remembers follow from its answers.

## Main definitions

* `UpdateScript`, `UpdateRun.Keeps`: what the world does, and runs that keep to it;
* `Turn.answersAtEnd`: how many answers an update will have had in the end.

## Main results

* `Account.shown`: the events of an update are told by its lifecycle and its answers;
* `UpdateRun.Keeps.unfolds`: what every run keeps once no more reports come in;
* `UpdateRun.order_immaterial`: whatever is taken up first, the update comes to the same end.
-/

namespace FanControl

/-! ### What the answers tell -/

/-- What a lifecycle has still to tell of its countdown. -/
def Lifecycle.toTell (l : Lifecycle) : List UpdateEvent :=
  match l.phase with
  | .rebooting => countdownFrom (l.countdown.getD 0)
  | .idle | .uploading | .polling | .succeeded | .failed => []

/-- What a lifecycle tells after the answers. -/
def Lifecycle.ending (l : Lifecycle) : List UpdateEvent :=
  match l.phase with
  | .rebooting | .succeeded => countdownFrom l.start
  | .failed => [.uploadFailed]
  | .idle | .uploading | .polling => []

section Account

variable {l l₁ l₂ : Lifecycle} {answers : List (Except Failure UpdateReport)}
  {events events₁ events₂ : List UpdateEvent}

/-- **What has been shown**, and what is left to tell of the countdown, is what the answers tell and
the ending. -/
theorem Account.shown (h : Account l answers events) :
    events ++ l.toTell = told answers ++ l.ending := by
  cases h with
  | rebooting k phase count _ _ shown =>
      simpa [Lifecycle.toTell, Lifecycle.ending, phase, count] using shown
  | uploading phase _ shown | polling phase _ shown | succeeded phase _ shown
  | rejected phase _ shown | brokenOff phase _ shown =>
      simpa [Lifecycle.toTell, Lifecycle.ending, phase] using shown

/-- The lifecycle and the answers of an update tell what has been shown. -/
theorem Account.events_unique (h₁ : Account l answers events₁) (h₂ : Account l answers events₂) :
    events₁ = events₂ :=
  List.append_cancel_right (h₁.shown.trans h₂.shown.symm)

/-- What a lifecycle remembers: the firmware that the last answer told of, and the countdown only
from its beginning on. -/
structure Lifecycle.Remembers (l : Lifecycle) (answers : List (Except Failure UpdateReport)) :
    Prop where
  firmware : l.firmware = (answered answers).getLast?.map (·.firmware)
  countdown : l.phase ≠ .rebooting → l.countdown = if l.phase = .succeeded then some 0 else none

namespace Lifecycle.Remembers

/-- What a lifecycle remembers while a verdict is awaited it remembers when another phase begins. -/
theorem enter (h : l.Remembers answers) (hawaits : l.phase.awaitsVerdict = true)
    {p : UpdatePhase} (hp : p ≠ .succeeded) : Remembers { l with phase := p } answers := by
  refine ⟨h.firmware, fun _ => ?_⟩
  have hbefore : l.phase ≠ .rebooting ∧ l.phase ≠ .succeeded := by
    constructor <;> rintro hphase <;> rw [hphase] at hawaits <;> cases hawaits
  simpa [hp, hbefore.2] using h.countdown hbefore.1

/-- A query that failed tells nothing. -/
theorem miss (h : l.Remembers answers) (e : Failure) : l.Remembers (answers ++ [.error e]) :=
  ⟨by simpa using h.firmware, h.countdown⟩

/-- A report is remembered. -/
theorem report (h : l.Remembers answers) (hp : l.phase = .polling) (r : UpdateReport) :
    (l.report r).2.Remembers (answers ++ [.ok r]) := by
  have hcountdown : l.countdown = none := by simpa [hp] using h.countdown (by simp [hp])
  rw [Lifecycle.report]
  cases hv : r.verdict <;> constructor <;> simp [hp, hcountdown]

/-- **What is remembered and the phase make up the lifecycle.** -/
theorem unique (h₁ : l₁.Remembers answers) (h₂ : l₂.Remembers answers)
    (hstart : l₁.start = l₂.start) (hphase : l₁.phase = l₂.phase)
    (hcountdown : l₁.phase = .rebooting → l₁.countdown = l₂.countdown) : l₁ = l₂ := by
  have hfirmware : l₁.firmware = l₂.firmware := h₁.firmware.trans h₂.firmware.symm
  have hcountdown : l₁.countdown = l₂.countdown := by
    by_cases hp : l₁.phase = .rebooting
    · exact hcountdown hp
    · rw [h₁.countdown hp, h₂.countdown (hphase ▸ hp), hphase]
  cases l₁
  cases l₂
  simp_all

end Lifecycle.Remembers

/-- **The answers and the upload request decide an update.** -/
theorem Outcome.unique {upload₁ upload₂ : UploadRequest}
    {result₁ result₂ : Except Failure UpdatePhase}
    (account₁ : Account l₁ answers events₁) (h₁ : Outcome upload₁ answers l₁ result₁)
    (account₂ : Account l₂ answers events₂) (h₂ : Outcome upload₂ answers l₂ result₂)
    (hupload : ∀ outcome₁ outcome₂, upload₁ = .ended outcome₁ → upload₂ = .ended outcome₂ →
      outcome₁ = outcome₂) : result₁ = result₂ ∧ l₁.phase = l₂.phase := by
  obtain ⟨-, hcomplete, hfailed, hnone⟩ := UpdateRun.result_of_outcome account₂ h₂
  cases h₁ with
  | succeeded phase =>
      obtain ⟨hresult, hphase⟩ := hcomplete (account₁.decided_of_succeeded phase).1
      exact ⟨hresult.symm, phase.trans hphase.symm⟩
  | rejected phase decided =>
      obtain ⟨hresult, hphase⟩ := hfailed decided
      exact ⟨hresult.symm, phase.trans hphase.symm⟩
  | undecided phase _ ended =>
      rcases hnone (account₁.undecided_of_polling phase).1 with
        ⟨-, hresult, hphase⟩ | ⟨e, hended, -⟩
      · exact ⟨hresult.symm, phase.trans hphase.symm⟩
      · cases hupload _ _ ended hended
  | brokenOff e phase undecided _ ended =>
      rcases hnone undecided with ⟨hended, -⟩ | ⟨e', hended, hresult, hphase⟩
      · cases hupload _ _ ended hended
      · cases hupload _ _ ended hended
        exact ⟨hresult.symm, phase.trans hphase.symm⟩

end Account

namespace UpdateLoop

variable {s : UpdateLoop Failure} {answers : List (Except Failure UpdateReport)}
  {upload : UploadRequest} {events : List UpdateEvent}

/-- The end of a turn forgets nothing. -/
theorem settle_remembers (h : s.lifecycle.Remembers answers) :
    s.settle.2.lifecycle.Remembers answers := by
  rcases s.settle_lifecycle with heq | ⟨-, hawaits, heq⟩
  · rwa [heq]
  · rw [heq]
    exact h.enter hawaits (by simp)

/-- Progress forgets nothing. -/
theorem progress_remembers (h : s.lifecycle.Remembers answers) (p : UploadProgress) :
    (s.progress p).2.lifecycle.Remembers answers := by
  rcases s.progress_cases p with ⟨hawaits, -, heq⟩ | ⟨-, heq⟩
  · rw [heq]
    exact h.enter hawaits (by simp)
  · rw [heq]
    exact settle_remembers h

/-- No stimulus makes an update forget anything. -/
theorem take_remembers (hs : Turn.Sound upload answers events (.select s))
    (h : s.lifecycle.Remembers answers) (x : Stimulus Failure) :
    (s.take x).2.lifecycle.Remembers answers := by
  cases x with
  | uploadEnded outcome =>
      rw [take_uploadEnded]
      exact progress_remembers (s := s.afterUpload outcome) h _
  | progress newest => exact progress_remembers h newest
  | closed => exact settle_remembers (s := { s with listening := false }) h
  | tick =>
      by_cases hp : s.lifecycle.phase = .rebooting
      · cases hs with
        | select _ sound =>
            obtain ⟨k, hk⟩ := sound.account.countdown_of_rebooting hp
            rcases Nat.eq_zero_or_pos k with rfl | hpos
            · rw [take_tick_last hp hk]
              exact ⟨h.firmware, fun _ => rfl⟩
            · rw [take_tick_of_pos hp hk hpos]
              exact settle_remembers (s := s.countedDown k)
                ⟨h.firmware, fun hno => absurd hp hno⟩
      · rw [take_tick_of_ne_rebooting hp]
        exact settle_remembers h

/-- An answer is remembered. -/
theorem answer_remembers (hs : Turn.Sound upload answers events (.query s))
    (h : s.lifecycle.Remembers answers) (a : Except Failure UpdateReport) :
    (s.answer a).2.lifecycle.Remembers (answers ++ [a]) := by
  cases hs with
  | query _ _ polling =>
      cases a with
      | error e => exact settle_remembers (h.miss e)
      | ok r =>
          exact settle_remembers (s := { s with lifecycle := (s.lifecycle.report r).2 })
            (h.report polling r)

end UpdateLoop

/-! ### Scripts -/

/-- What the world does to an update: how the upload request ends, and what becomes of each query,
the first one having the number zero. -/
structure UpdateScript where
  outcome : Except Failure Unit
  answer : Nat → Except Failure UpdateReport

/-- The number of the query that comes next after a move. -/
def UpdateMove.nextQuery (k : Nat) : UpdateMove → Nat
  | .answer _ => k + 1
  | .wait _ | .report | .finish _ | .look | .close | .tick => k

namespace UpdateScript

/-- Whether moves are what is laid down, from the query with the number `k` on. -/
def Allows (c : UpdateScript) : Nat → List UpdateMove → Prop
  | _, [] => True
  | k, m :: moves => m.Agrees c.outcome (c.answer k) ∧ c.Allows (m.nextQuery k) moves

/-- How many answers an update has had in the end if none of the first `k` is decisive and there are
`n` more occasions to ask. A decisive answer is the last one. -/
def answersAtEnd (c : UpdateScript) : Nat → Nat → Nat
  | 0, k => k
  | n + 1, k => if decision? [c.answer k] = none then c.answersAtEnd n (k + 1) else k + 1

end UpdateScript

/-- The occasions to ask the device that are left when no more reports come in: the end of the
upload request, and the reports that have not been seen, if the size is known in the newest. -/
def UpdateLoop.occasions (s : UpdateLoop Failure) (unread : List UploadProgress) : Nat :=
  (!s.ended).toNat + (unread.getLast?.any (·.total.isSome)).toNat

/-- How many answers an update will have had in the end, that has had `k` so far. -/
def Turn.answersAtEnd (c : UpdateScript) (unread : List UploadProgress) (k : Nat) :
    Turn Failure → Nat
  | .select s =>
    if s.lifecycle.phase.awaitsVerdict then c.answersAtEnd (s.occasions unread) k else k
  | .query s => c.answersAtEnd (s.occasions unread + 1) k
  | .finished _ _ => k

namespace UpdateLoop

variable {c : UpdateScript} {s : UpdateLoop Failure} {unread : List UploadProgress} {k : Nat}

/-- An update that is concluded is over. -/
theorem exists_conclude (s : UpdateLoop Failure) :
    ∃ l result, s.conclude.2 = .finished l result := by
  rw [conclude]
  split
  · split <;> exact ⟨_, _, rfl⟩
  · exact ⟨_, _, rfl⟩

/-- The end of a turn passes over no occasion. -/
theorem settle_answersAtEnd (hseen : s.listening = false → unread = []) :
    s.settle.2.answersAtEnd c unread k = (Turn.select s).answersAtEnd c unread k := by
  simp only [settle]
  split
  · next hover =>
    simp only [Bool.and_eq_true, Bool.not_eq_true'] at hover
    obtain ⟨⟨hended, hlisten⟩, -⟩ := hover
    have hnone : s.occasions unread = 0 := by simp [occasions, hended, hseen hlisten]
    obtain ⟨l, result, heq⟩ := exists_conclude
      { s with counting := s.counting || s.lifecycle.phase == .rebooting }
    simp [heq, Turn.answersAtEnd, hnone, UpdateScript.answersAtEnd]
  · rfl

/-- Progress is an occasion to ask if its size is known. -/
theorem progress_answersAtEnd (p : UploadProgress) (hseen : s.listening = false → unread = []) :
    (s.progress p).2.answersAtEnd c unread k =
      if s.lifecycle.phase.awaitsVerdict then
        c.answersAtEnd (s.occasions unread + p.total.isSome.toNat) k
      else k := by
  rcases s.progress_cases p with ⟨hawaits, htotal, heq⟩ | ⟨hno, heq⟩
  · obtain ⟨total, htotal⟩ := Option.ne_none_iff_exists'.mp htotal
    simp [heq, hawaits, htotal, Turn.answersAtEnd, occasions]
  · rw [heq, settle_answersAtEnd hseen, Turn.answersAtEnd]
    rcases hno with hno | hno <;> simp [hno]

/-- The end of the upload request is an occasion to ask. -/
theorem uploadEnded_answersAtEnd (outcome : Except Failure Unit) (hended : s.ended = false)
    (hseen : s.listening = false → unread = []) :
    (s.take (.uploadEnded outcome)).2.answersAtEnd c unread k =
      (Turn.select s).answersAtEnd c unread k := by
  rw [take_uploadEnded, progress_answersAtEnd (s := s.afterUpload outcome) s.wholeImage hseen]
  simp [Turn.answersAtEnd, occasions, afterUpload, wholeImage, hended, Nat.add_comm]

/-- Seeing the reports that have come in is an occasion to ask if the size is known in the
newest. -/
theorem look_answersAtEnd {newest : UploadProgress} (hnewest : unread.getLast? = some newest) :
    (s.take (.progress newest)).2.answersAtEnd c [] k =
      (Turn.select s).answersAtEnd c unread k := by
  rw [take, progress_answersAtEnd newest fun _ => rfl]
  simp [Turn.answersAtEnd, occasions, hnewest]

/-- A step of the countdown is no occasion to ask, because the verdict has been given. -/
theorem tick_answersAtEnd {upload : UploadRequest} {answers : List (Except Failure UpdateReport)}
    {events : List UpdateEvent} (hs : Turn.Sound upload answers events (.select s))
    (hcount : s.counting = true) (hseen : s.listening = false → unread = []) :
    (s.take .tick).2.answersAtEnd c unread k = (Turn.select s).answersAtEnd c unread k := by
  cases hs with
  | select _ sound =>
      have hp := sound.counting hcount
      obtain ⟨j, hj⟩ := sound.account.countdown_of_rebooting hp
      have hbefore : (Turn.select s).answersAtEnd c unread k = k := by
        simp [Turn.answersAtEnd, hp, UpdatePhase.awaitsVerdict]
      rw [hbefore]
      rcases Nat.eq_zero_or_pos j with rfl | hpos
      · rw [take_tick_last hp hj]
        rfl
      · rw [take_tick_of_pos hp hj hpos]
        refine (settle_answersAtEnd (s := s.countedDown j) hseen).trans ?_
        simp [Turn.answersAtEnd, countedDown, hp, UpdatePhase.awaitsVerdict]

/-- An answer ends the asking if it is decisive. -/
theorem answer_answersAtEnd (hp : s.lifecycle.phase = .polling)
    (hseen : s.listening = false → unread = []) :
    (s.answer (c.answer k)).2.answersAtEnd c unread (k + 1) =
      (Turn.query s).answersAtEnd c unread k := by
  rw [Turn.answersAtEnd, UpdateScript.answersAtEnd]
  cases ha : c.answer k with
  | error e =>
      change s.settle.2.answersAtEnd c unread (k + 1) = _
      rw [settle_answersAtEnd hseen, Turn.answersAtEnd, hp]
      rfl
  | ok r =>
      have hphase := Lifecycle.report_phase hp r
      have heq := settle_answersAtEnd (s := { s with lifecycle := (s.lifecycle.report r).2 })
        (c := c) (k := k + 1) hseen
      refine heq.trans ?_
      rw [Turn.answersAtEnd, hphase, decision?_ok]
      cases r.verdict <;> rfl

end UpdateLoop

namespace UpdateRun

variable {period now : Nat} {l : Lifecycle} {coming : List UploadProgress} {r r' : UpdateRun}
  {m : UpdateMove} {moves : List UpdateMove} {c : UpdateScript}

/-! ### When no more reports come in -/

/-- The reports that are still to come only get fewer. -/
theorem coming_of_move (h : r.move? period m = some r') (hcoming : r.coming = []) :
    r'.coming = [] := by
  rcases move_cases h with ⟨hback, -⟩ | ⟨s, x, -, hx, -, rfl⟩ | ⟨s, a, -, rfl, rfl⟩
  · obtain ⟨_, rfl, rfl⟩ | ⟨p, rest, rfl, hp, -⟩ := background_cases hback
    · exact hcoming
    · rw [hcoming] at hp
      cases hp
  · exact (consume_of_stimulus period hx).2.1.trans hcoming
  · exact hcoming

/-- A run stops listening only when all reports have come in and have been seen. -/
def SeesAll (r : UpdateRun) : Prop :=
  ∀ s, r.turn.loop? = some s → s.listening = false → r.coming = [] ∧ r.unread = []

/-- A run that listens until all reports have been seen does so after every move. -/
theorem SeesAll.move (hr : r.SeesAll) (h : r.move? period m = some r') : r'.SeesAll := by
  intro s' hs' hlisten
  rcases move_cases h with ⟨hback, -⟩ | ⟨s, x, hturn, hx, -, rfl⟩ | ⟨s, a, hturn, rfl, rfl⟩
  · rw [(background_frame hback).1] at hs'
    obtain ⟨hcoming, hunread⟩ := hr s' hs' hlisten
    obtain ⟨_, rfl, rfl⟩ | ⟨p, rest, rfl, hp, -⟩ := background_cases hback
    · exact ⟨hcoming, hunread⟩
    · rw [hcoming] at hp
      cases hp
  · have hbefore := hr s (by rw [hturn]; rfl)
    have hflag := (UpdateLoop.take_flags hs').2.mp hlisten
    obtain ⟨_, rfl, rfl⟩ | ⟨_, rfl, rfl, -⟩ | ⟨rfl, rfl, hcoming, hunread⟩ | ⟨_, rfl, rfl, -⟩ :=
      stimulus_cases hx
    · exact hbefore (by simpa using hflag)
    · exact ⟨(hbefore (by simpa using hflag)).1, rfl⟩
    · exact ⟨hcoming, hunread⟩
    · exact hbefore (by simpa using hflag)
  · exact hr s (by rw [hturn]; rfl) ((UpdateLoop.answer_flags hs').2 ▸ hlisten)

/-- No move makes a run forget anything. -/
theorem Sound.remembers_of_move (hr : r.Sound) (hrem : r.turn.lifecycle.Remembers r.answers)
    (h : r.move? period m = some r') : r'.turn.lifecycle.Remembers r'.answers := by
  rcases move_cases h with ⟨hback, -⟩ | ⟨s, x, hturn, hx, -, rfl⟩ | ⟨s, a, hturn, rfl, rfl⟩
  · obtain ⟨hturn, -, hanswers, -⟩ := background_frame hback
    rwa [hturn, hanswers]
  · rw [hturn] at hrem
    have htake := UpdateLoop.take_remembers (hr.turn_of hturn) hrem x
    obtain ⟨_, rfl, -⟩ | ⟨_, rfl, -⟩ | ⟨rfl, -⟩ | ⟨_, rfl, -⟩ := stimulus_cases hx <;> exact htake
  · rw [hturn] at hrem
    exact UpdateLoop.answer_remembers (hr.turn_of hturn) hrem a

/-- What is known of a run in which no more reports come in. -/
structure Reported (r : UpdateRun) : Prop where
  sound : r.Sound
  sees : r.SeesAll
  remembers : r.turn.lifecycle.Remembers r.answers
  coming : r.coming = []

/-- What is known of a run without further reports is known after every move. -/
theorem Reported.move (hr : r.Reported) (h : r.move? period m = some r') : r'.Reported :=
  ⟨hr.sound.move h, hr.sees.move h, hr.sound.remembers_of_move hr.remembers h,
    coming_of_move h hr.coming⟩

/-- An update of one image comes to a moment like this when its last report has come in. -/
theorem reported_of_run {image : FirmwareImage} (hidle : l.phase = .idle)
    (h : (start now l [image] coming).run period moves = some r) (hcoming : r.coming = []) :
    r.Reported := by
  have hstart := sound_start now image coming hidle
  have hkept := run_induction
    (P := fun x => x.Sound ∧ x.SeesAll ∧ x.turn.lifecycle.Remembers x.answers)
    (fun hx hmove => ⟨hx.1.move hmove, hx.2.1.move hmove, hx.1.remembers_of_move hx.2.2 hmove⟩) h
    ⟨hstart, by simp [start_of_idle hidle, SeesAll, Turn.loop?, UpdateLoop.begin],
      by rw [start_of_idle hidle]; exact ⟨rfl, fun _ => rfl⟩⟩
  exact ⟨hkept.1, hkept.2.1, hkept.2.2, hcoming⟩

/-! ### Runs that keep to a script -/

/-- How many answers a run will have had in the end. -/
def answersAtEnd (c : UpdateScript) (r : UpdateRun) : Nat :=
  r.turn.answersAtEnd c r.unread r.answers.length

/-- **No move changes how many answers there will be in the end**, if the world does what is laid
down. -/
theorem Reported.answersAtEnd_of_move (hr : r.Reported)
    (hm : m.Agrees c.outcome (c.answer r.answers.length)) (h : r.move? period m = some r') :
    r'.answersAtEnd c = r.answersAtEnd c := by
  rcases move_cases h with ⟨hback, -⟩ | ⟨s, x, hturn, hx, hready, rfl⟩ | ⟨s, a, hturn, rfl, rfl⟩
  · obtain ⟨_, rfl, rfl⟩ | ⟨p, rest, rfl, hp, -⟩ := background_cases hback
    · rfl
    · rw [hr.coming] at hp
      cases hp
  · have hseen (hlisten : s.listening = false) : r.unread = [] :=
      (hr.sees s (by rw [hturn]; rfl) hlisten).2
    rw [answersAtEnd, answersAtEnd, hturn]
    obtain ⟨outcome, rfl, rfl⟩ | ⟨newest, rfl, rfl, hnewest⟩ | ⟨rfl, rfl, -, hunread⟩ |
      ⟨_, rfl, rfl, -⟩ := stimulus_cases hx
    · have hended : s.ended = false := by simpa [UpdateLoop.isReady] using hready
      exact UpdateLoop.uploadEnded_answersAtEnd outcome hended hseen
    · exact UpdateLoop.look_answersAtEnd hnewest
    · exact UpdateLoop.settle_answersAtEnd (s := { s with listening := false }) fun _ => hunread
    · exact UpdateLoop.tick_answersAtEnd (hr.sound.turn_of hturn) hready hseen
  · have hseen (hlisten : s.listening = false) : r.unread = [] :=
      (hr.sees s (by rw [hturn]; rfl) hlisten).2
    obtain rfl : a = c.answer r.answers.length := hm
    have hanswer := UpdateLoop.answer_answersAtEnd (c := c) (k := r.answers.length)
      (hr.sound.undecided_of_query hturn).1 hseen
    rw [answersAtEnd, answersAtEnd, hturn, ← hanswer]
    simp [proceed, consume]

/-- Moves that are laid down lead from one run to another. -/
structure Keeps (period : Nat) (c : UpdateScript) (r : UpdateRun) (moves : List UpdateMove)
    (r' : UpdateRun) : Prop where
  allowed : c.Allows r.answers.length moves
  run : r.run period moves = some r'

/-- No moves lead from a run to itself. -/
theorem Keeps.nil (period : Nat) (c : UpdateScript) (r : UpdateRun) : r.Keeps period c [] r :=
  ⟨trivial, rfl⟩

/-- The next query is the one that has not been answered. -/
theorem length_answers_of_move (h : r.move? period m = some r') :
    r'.answers.length = m.nextQuery r.answers.length := by
  rw [answers_of_move h]
  cases m <;> simp [UpdateMove.nextQuery]

/-- Moves that are laid down lead to a run exactly if the first one agrees and the others lead on
from where it leads. -/
theorem keeps_cons_iff : r.Keeps period c (m :: moves) r' ↔
    m.Agrees c.outcome (c.answer r.answers.length) ∧
      ∃ r₁, r.move? period m = some r₁ ∧ r₁.Keeps period c moves r' := by
  constructor
  · rintro ⟨⟨hm, hmoves⟩, hrun⟩
    obtain ⟨r₁, hmove, hrun⟩ := Option.bind_eq_some_iff.mp hrun
    exact ⟨hm, r₁, hmove, length_answers_of_move hmove ▸ hmoves, hrun⟩
  · rintro ⟨hm, r₁, hmove, hmoves, hrun⟩
    exact ⟨⟨hm, length_answers_of_move hmove ▸ hmoves⟩, (run_cons hmove moves).trans hrun⟩

/-- **What the moves of a script lead to**, once no more reports come in. -/
structure Unfolds (c : UpdateScript) (r r' : UpdateRun) : Prop where
  reported : r'.Reported
  atEnd : r'.answersAtEnd c = r.answersAtEnd c
  answers : ∃ n, r'.answers = r.answers ++ (List.range' r.answers.length n).map c.answer
  upload : r'.upload = r.upload ∨ r'.upload = .ended c.outcome
  start : r'.turn.lifecycle.start = r.turn.lifecycle.start

/-- **Every run that keeps to a script leads to what the script says.** -/
theorem Keeps.unfolds (hr : r.Reported) (h : r.Keeps period c moves r') : r.Unfolds c r' := by
  induction moves generalizing r with
  | nil =>
      obtain rfl := Option.some.inj h.run
      exact ⟨hr, rfl, ⟨0, by simp⟩, .inl rfl, rfl⟩
  | cons m moves ih =>
      obtain ⟨hm, r₁, hmove, hrest⟩ := keeps_cons_iff.mp h
      obtain ⟨reported, atEnd, ⟨n, answers⟩, upload, start⟩ := ih (hr.move hmove) hrest
      have hanswers := answers_of_move hmove
      have hupload := upload_of_move hmove
      refine ⟨reported, atEnd.trans (hr.answersAtEnd_of_move hm hmove), ?_, ?_,
        start.trans (hr.sound.next hmove).start⟩
      · cases m with
        | answer a =>
            obtain rfl : a = c.answer r.answers.length := hm
            refine ⟨n + 1, ?_⟩
            rw [answers, hanswers]
            simp [List.range'_succ]
        | wait _ | report | finish _ | look | close | tick =>
            exact ⟨n, by rw [answers, hanswers]; simp⟩
      · cases m with
        | finish outcome =>
            obtain rfl : outcome = c.outcome := hm
            exact .inr (upload.elim (·.trans hupload) id)
        | wait _ | report | answer _ | look | close | tick =>
            exact upload.imp (·.trans hupload) id

/-- Every run can be brought to its end by moves that are laid down. -/
theorem Sound.exists_keeps (period : Nat) (c : UpdateScript) (hr : r.Sound) :
    ∃ moves r', r.Keeps period c moves r' ∧ r'.IsOver := by
  induction hn : r.rank using Nat.strongRecOn generalizing r with
  | ind n ih =>
      by_cases hover : r.IsOver
      · exact ⟨[], r, .nil period c r, hover⟩
      · obtain ⟨ms, m, r₁, hm, hrun, hlt⟩ :=
          hr.exists_move period hover c.outcome (c.answer r.answers.length)
        obtain ⟨moves, r', hmoves, hend⟩ := ih r₁.rank (hn ▸ hlt) (hr.run hrun) rfl
        have hwait := move?_wait period hover ms
        rw [run_cons hwait, run_singleton] at hrun
        exact ⟨.wait ms :: m :: moves, r',
          keeps_cons_iff.mpr ⟨trivial, _, hwait, keeps_cons_iff.mpr ⟨hm, r₁, hrun, hmoves⟩⟩, hend⟩

/-- Moves that are laid down lead on where others have led to. -/
theorem Keeps.append {r₁ : UpdateRun} {more : List UpdateMove} (h : r.Keeps period c moves r₁)
    (h' : r₁.Keeps period c more r') : r.Keeps period c (moves ++ more) r' := by
  induction moves generalizing r with
  | nil =>
      obtain rfl := Option.some.inj h.run
      exact h'
  | cons m moves ih =>
      obtain ⟨hm, r₀, hmove, hrest⟩ := keeps_cons_iff.mp h
      exact keeps_cons_iff.mpr ⟨hm, r₀, hmove, ih hrest⟩

/-! ### Both orders come to the same -/

/-- The end of the upload request and all reports have been taken up, and the update goes on. -/
def HasTakenUp (r : UpdateRun) : Prop :=
  ∃ s, r.turn = .select s ∧ s.ended = true ∧ r.unread = []

/-- When all has been taken up, no answers come in any more. -/
theorem HasTakenUp.answersAtEnd (c : UpdateScript) (h : r.HasTakenUp) :
    r.answersAtEnd c = r.answers.length := by
  obtain ⟨s, hturn, hended, hunread⟩ := h
  simp [UpdateRun.answersAtEnd, hturn, Turn.answersAtEnd, UpdateLoop.occasions, hended, hunread,
    UpdateScript.answersAtEnd]

/-- When all has been taken up, the answers tell the phase. -/
theorem HasTakenUp.phase_eq (hr : r.Sound) (h : r.HasTakenUp) :
    r.phase = match decision? r.answers with
      | none => .polling
      | some .complete => .rebooting
      | some _ => .failed := by
  obtain ⟨s, hturn, hended, -⟩ := h
  rw [phase, hturn]
  cases hr.turn_of hturn with
  | select _ sound _ begun =>
      change s.lifecycle.phase = _
      cases sound.account with
      | uploading phase => exact absurd phase (begun hended)
      | polling phase undecided => rw [phase, undecided]
      | rebooting _ phase _ _ decided => rw [phase, decided]
      | succeeded phase => exact absurd phase sound.running
      | rejected phase decided => rw [phase, decided]
      | brokenOff phase undecided =>
          rw [sound.rejected phase] at undecided
          cases undecided

section Unfolds

variable {r₁ r₂ : UpdateRun}

/-- Runs that have as many answers have the same ones. -/
theorem Unfolds.answers_unique (h₁ : r.Unfolds c r₁) (h₂ : r.Unfolds c r₂)
    (hlength : r₁.answers.length = r₂.answers.length) : r₁.answers = r₂.answers := by
  obtain ⟨n₁, hn₁⟩ := h₁.answers
  obtain ⟨n₂, hn₂⟩ := h₂.answers
  have hn : n₁ = n₂ := by simpa [hn₁, hn₂] using hlength
  rw [hn₁, hn₂, hn]

/-- **With the same answers and in the same phase two runs are alike**, if as much is left of their
countdowns. -/
theorem Unfolds.alike (h₁ : r.Unfolds c r₁) (h₂ : r.Unfolds c r₂)
    (hanswers : r₁.answers = r₂.answers) (hphase : r₁.phase = r₂.phase)
    (hcountdown : r₁.phase = .rebooting →
      r₁.turn.lifecycle.countdown = r₂.turn.lifecycle.countdown) :
    r₁.turn.lifecycle = r₂.turn.lifecycle ∧ r₁.events = r₂.events := by
  have hlifecycle : r₁.turn.lifecycle = r₂.turn.lifecycle :=
    h₁.reported.remembers.unique (hanswers ▸ h₂.reported.remembers)
      (h₁.start.trans h₂.start.symm) hphase hcountdown
  have haccount₂ := h₂.reported.sound.account
  rw [← hlifecycle, ← hanswers] at haccount₂
  exact ⟨hlifecycle, h₁.reported.sound.account.events_unique haccount₂⟩

/-- **Two runs that have taken up everything are alike**, if they have taken as many steps of the
countdown. -/
theorem Keeps.alike_of_hasTakenUp {moves₁ moves₂ : List UpdateMove} (hr : r.Reported)
    (hk₁ : r.Keeps period c moves₁ r₁) (hk₂ : r.Keeps period c moves₂ r₂)
    (ht₁ : r₁.HasTakenUp) (ht₂ : r₂.HasTakenUp)
    (hticks : moves₁.countP (·.isTick) = moves₂.countP (·.isTick)) :
    r₁.answers = r₂.answers ∧ r₁.events = r₂.events ∧
      r₁.turn.lifecycle = r₂.turn.lifecycle := by
  have h₁ := hk₁.unfolds hr
  have h₂ := hk₂.unfolds hr
  have hanswers : r₁.answers = r₂.answers := h₁.answers_unique h₂ <| by
    rw [← ht₁.answersAtEnd c, ← ht₂.answersAtEnd c, h₁.atEnd, h₂.atEnd]
  have hphase : r₁.phase = r₂.phase := by
    rw [ht₁.phase_eq h₁.reported.sound, ht₂.phase_eq h₂.reported.sound, hanswers]
  have hcountdown (hp : r₁.phase = .rebooting) :
      r₁.turn.lifecycle.countdown = r₂.turn.lifecycle.countdown := by
    have hp₂ : r₂.phase = .rebooting := hphase ▸ hp
    obtain ⟨k₁, hc₁⟩ := h₁.reported.sound.account.countdown_of_rebooting hp
    obtain ⟨k₂, hc₂⟩ := h₂.reported.sound.account.countdown_of_rebooting hp₂
    have hleft₁ := hr.sound.ticks_of_run hk₁.run (by simp [hp])
    have hleft₂ := hr.sound.ticks_of_run hk₂.run (by simp [hp₂])
    rw [phase] at hp hp₂
    simp only [Lifecycle.left, hp, hp₂, hc₁, hc₂, Option.getD_some] at hleft₁ hleft₂
    rw [hc₁, hc₂]
    congr 1
    omega
  obtain ⟨hlifecycle, hevents⟩ := h₁.alike h₂ hanswers hphase hcountdown
  exact ⟨hanswers, hevents, hlifecycle⟩

/-- **Two runs that are over have come to the same end.** -/
theorem Unfolds.end_unique {l₁ l₂ : Lifecycle} {result₁ result₂ : Except Failure UpdatePhase}
    (hflight : r.upload = .inFlight) (h₁ : r.Unfolds c r₁) (h₂ : r.Unfolds c r₂)
    (ht₁ : r₁.turn = .finished l₁ result₁) (ht₂ : r₂.turn = .finished l₂ result₂) :
    l₁ = l₂ ∧ result₁ = result₂ ∧ r₁.answers = r₂.answers ∧ r₁.events = r₂.events := by
  have hatEnd {x : UpdateRun} {l : Lifecycle} {result : Except Failure UpdatePhase}
      (ht : x.turn = .finished l result) : x.answersAtEnd c = x.answers.length := by
    rw [answersAtEnd, ht]
    rfl
  have hanswers : r₁.answers = r₂.answers := h₁.answers_unique h₂ <| by
    rw [← hatEnd ht₁, ← hatEnd ht₂, h₁.atEnd, h₂.atEnd]
  -- A request that has ended has done so in the one way that is laid down.
  have hupload {x : UpdateRun} {outcome : Except Failure Unit} (hx : r.Unfolds c x)
      (hended : x.upload = .ended outcome) : outcome = c.outcome := by
    rcases hx.upload with hup | hup
    · rw [hup, hflight] at hended
      cases hended
    · rw [hup] at hended
      cases hended
      rfl
  obtain ⟨account₁, outcome₁⟩ := h₁.reported.sound.outcome ht₁
  obtain ⟨account₂, outcome₂⟩ := h₂.reported.sound.outcome ht₂
  rw [hanswers] at account₁ outcome₁
  obtain ⟨rfl, hphase⟩ := outcome₁.unique account₁ account₂ outcome₂
    fun _ _ he₁ he₂ => (hupload h₁ he₁).trans (hupload h₂ he₂).symm
  have hreboots : l₁.phase ≠ .rebooting := by
    cases outcome₁ with
    | succeeded phase | rejected phase | undecided phase | brokenOff _ phase => simp [phase]
  have hp₁ : r₁.phase = l₁.phase := by rw [phase, ht₁]; rfl
  have hp₂ : r₂.phase = l₂.phase := by rw [phase, ht₂]; rfl
  obtain ⟨hlifecycle, hevents⟩ := h₁.alike h₂ hanswers (by rw [hp₁, hp₂, hphase])
    fun hp => absurd (hp₁ ▸ hp) hreboots
  rw [ht₁, ht₂] at hlifecycle
  exact ⟨hlifecycle, rfl, hanswers, hevents⟩

end Unfolds

/-- **The order in which an update takes things up does not matter.** When its upload request has
ended, reports may still be unseen and a step of the countdown may be due. Each of them can be taken
up first, and however an update goes on it comes to its end. Two runs that have taken up the end of
the request and the reports have asked the same queries, shown the same events and are in the same
state, if they have taken as many steps of the countdown; and all runs come to the same end with the
same queries, events and result. -/
theorem order_immaterial {image : FirmwareImage} {before : List UpdateMove}
    {s : UpdateLoop Failure} (hidle : l.phase = .idle)
    (h : (start now l [image] coming).run period before = some r) (hturn : r.turn = .select s)
    (hended : s.ended = false) (hcoming : r.coming = []) (hunread : r.unread ≠ []) :
    (r.move? period (.finish c.outcome)).isSome ∧ (r.move? period .look).isSome ∧
    (∀ due, r.due = some due → due ≤ r.now → (r.move? period .tick).isSome) ∧
    (∀ moves r', r.Keeps period c moves r' →
      ∃ more r'', r.Keeps period c (moves ++ more) r'' ∧ r''.IsOver) ∧
    (∀ moves₁ moves₂ r₁ r₂, r.Keeps period c moves₁ r₁ → r.Keeps period c moves₂ r₂ →
      r₁.HasTakenUp → r₂.HasTakenUp → moves₁.countP (·.isTick) = moves₂.countP (·.isTick) →
      r₁.answers = r₂.answers ∧ r₁.events = r₂.events ∧
        r₁.turn.lifecycle = r₂.turn.lifecycle) ∧
    ∃ answers events l' result, ∀ moves r', r.Keeps period c moves r' → r'.IsOver →
      r'.answers = answers ∧ r'.events = events ∧ r'.turn = .finished l' result := by
  have hr := reported_of_run hidle h hcoming
  have hflight := hr.sound.inFlight hturn hended
  have hlisten : s.listening = true := by
    cases hl : s.listening with
    | true => rfl
    | false => exact absurd (hr.sees s (by rw [hturn]; rfl) hl).2 hunread
  refine ⟨?_, ?_, ?_, ?_, ?_, ?_⟩
  · simp [move?, hturn, stimulus?, UpdateLoop.isReady, hended]
  · simp [move?, hturn, stimulus?, UpdateLoop.isReady, hlisten,
      List.getLast?_eq_some_getLast hunread]
  · intro due hdue hle
    have hcount : s.counting = true := by
      have htimed := hr.sound.timed
      rw [hdue, hturn] at htimed
      exact htimed.symm
    simp [move?, hturn, stimulus?, UpdateLoop.isReady, hcount, hdue, hle]
  · intro moves r' hkeeps
    obtain ⟨more, r'', hmore, hover⟩ := (hr.sound.run hkeeps.run).exists_keeps period c
    exact ⟨more, r'', hkeeps.append hmore, hover⟩
  · intro moves₁ moves₂ r₁ r₂ hk₁ hk₂
    exact hk₁.alike_of_hasTakenUp hr hk₂
  · obtain ⟨moves₀, r₀, hk₀, l₀, result₀, ht₀⟩ := hr.sound.exists_keeps period c
    refine ⟨r₀.answers, r₀.events, l₀, result₀, ?_⟩
    rintro moves r' hk ⟨l', result', ht⟩
    obtain ⟨rfl, rfl, hanswers, hevents⟩ :=
      (hk.unfolds hr).end_unique hflight (hk₀.unfolds hr) ht ht₀
    exact ⟨hanswers, hevents, ht⟩

/-- A request that failed, two reports of which the newer one has a known size, and a device that
needs a second query: taken up in one order and in the other. -/
theorem order_immaterial_failedUpload : ∃ r r₁ r₂,
    (start 0 (.new 1) [⟨"fw.bin", [0x5A, 0x5B]⟩] [⟨1, none⟩, ⟨2, some 2⟩]).run 10
      [.report, .report] = some r ∧
    r.run 10 [.finish (.error (.refused "/OTAupdate" 503)), .answer (.ok ⟨.pending, "", ""⟩), .look,
      .answer (.ok ⟨.complete, "Jan 1", "00:00"⟩), .close, .wait 10, .tick] = some r₁ ∧
    r.run 10 [.look, .answer (.ok ⟨.pending, "", ""⟩),
      .finish (.error (.refused "/OTAupdate" 503)),
      .answer (.ok ⟨.complete, "Jan 1", "00:00"⟩), .wait 10, .tick] = some r₂ ∧
    r₁.IsOver ∧ r₂.IsOver ∧ r₁.answers = r₂.answers ∧ r₁.events = r₂.events ∧
    r₁.turn = r₂.turn := by
  let c : UpdateScript := ⟨.error (.refused "/OTAupdate" 503), fun
    | 0 => .ok ⟨.pending, "", ""⟩
    | _ => .ok ⟨.complete, "Jan 1", "00:00"⟩⟩
  obtain ⟨-, -, -, -, -, answers, events, l', result, hend⟩ :=
    @order_immaterial 10 0 (.new 1) [⟨1, none⟩, ⟨2, some 2⟩] _ c ⟨"fw.bin", [0x5A, 0x5B]⟩
      [.report, .report] _ rfl rfl rfl rfl rfl (by simp)
  have hfirst := hend [.finish c.outcome, .answer (c.answer 0), .look, .answer (c.answer 1),
    .close, .wait 10, .tick] _
    ⟨⟨rfl, rfl, trivial, rfl, trivial, trivial, trivial, trivial⟩, rfl⟩ ⟨_, _, rfl⟩
  have hlast := hend [.look, .answer (c.answer 0), .finish c.outcome, .answer (c.answer 1),
    .wait 10, .tick] _ ⟨⟨trivial, rfl, rfl, rfl, trivial, trivial, trivial⟩, rfl⟩ ⟨_, _, rfl⟩
  exact ⟨_, _, _, rfl, rfl, rfl, ⟨_, _, rfl⟩, ⟨_, _, rfl⟩, hfirst.1.trans hlast.1.symm,
    hfirst.2.1.trans hlast.2.1.symm, hfirst.2.2.trans hlast.2.2.symm⟩

end UpdateRun

end FanControl
