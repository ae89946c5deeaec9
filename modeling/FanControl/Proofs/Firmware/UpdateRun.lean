import FanControl.Proofs.Firmware.UpdateLoop

/-!
# What every run of an update keeps, and why it ends

A move of a run is a turn of the loop or happens without it. `move_cases` says once what a move
can do, and from it follow the two facts that everything else rests on: a run stays sound
(`UpdateRun.Sound.run`), and it comes to an end. For the end, each run has a **rank** that every
move but waiting lowers, and as long as the update is not over some such move can be made, if need
be after waiting.

## Main results

* `UpdateRun.Sound.run`, `UpdateRun.Sound.next`: what every run keeps, and what a move changes;
* `UpdateRun.Sound.length_moves`: a bound for the number of moves;
* `UpdateRun.Sound.busy`, `UpdateRun.Sound.exists_ready`: a run that is not over waits for
  something;
* `UpdateRun.Sound.exists_over`: every run can be brought to its end.
-/

namespace FanControl

/-- An update that has just been submitted. -/
def Lifecycle.submitted (l : Lifecycle) : Lifecycle :=
  { l with phase := .uploading, countdown := none, firmware := none }

/-- What is submitted is one image while no other update is going on. -/
theorem Lifecycle.submit_eq_ok {l l' : Lifecycle} {files : List FirmwareImage}
    {image : FirmwareImage} {events : List UpdateEvent}
    (h : l.submit files = .ok (image, events, l')) :
    l.phase = .idle ∧ files = [image] ∧ events = [.uploading] ∧ l' = l.submitted := by
  rw [submit.eq_def] at h
  split at h
  · cases h
  · next hidle =>
    split at h
    · cases h
      exact ⟨by simpa using hidle, rfl, rfl, rfl⟩
    · cases h

namespace UpdateRun

variable {period : Nat} {r r' : UpdateRun} {m : UpdateMove}

/-- Whether the update is over. -/
def IsOver (r : UpdateRun) : Prop := ∃ l result, r.turn = .finished l result

/-! ### Moves -/

/-- **What a move can do**: it happens without the loop, or a stimulus is taken, or the device
answers. -/
theorem move_cases (h : r.move? period m = some r') :
    (r.background? m = some r' ∧ ¬ r.IsOver) ∨
    (∃ s x, r.turn = .select s ∧ r.stimulus? m = some x ∧ s.isReady x = true ∧
      r' = (r.consume period m).proceed period (s.take x)) ∨
    (∃ s a, r.turn = .query s ∧ m = .answer a ∧
      r' = (r.consume period m).proceed period (s.answer a)) := by
  rw [move?] at h
  cases hturn : r.turn with
  | finished l result =>
      rw [hturn] at h
      cases h
  | query s =>
      have hrunning : ¬ r.IsOver := by
        rintro ⟨l, result, hover⟩
        rw [hturn] at hover
        cases hover
      rw [hturn] at h
      cases m with
      | answer a => exact .inr (.inr ⟨s, a, rfl, rfl, (Option.some.inj h).symm⟩)
      | wait _ | report | finish _ | look | close | tick => exact .inl ⟨h, hrunning⟩
  | select s =>
      have hrunning : ¬ r.IsOver := by
        rintro ⟨l, result, hover⟩
        rw [hturn] at hover
        cases hover
      rw [hturn] at h
      dsimp only at h
      split at h
      · next x hx =>
        split at h
        · next hready => exact .inr (.inl ⟨s, x, rfl, hx, hready, (Option.some.inj h).symm⟩)
        · cases h
      · exact .inl ⟨h, hrunning⟩

/-- **Which moves hand a stimulus to the loop**, and when they can be made. -/
theorem stimulus_cases {x : Stimulus Failure} (h : r.stimulus? m = some x) :
    (∃ outcome, m = .finish outcome ∧ x = .uploadEnded outcome) ∨
    (∃ newest, m = .look ∧ x = .progress newest ∧ r.unread.getLast? = some newest) ∨
    (m = .close ∧ x = .closed ∧ r.coming = [] ∧ r.unread = []) ∨
    (∃ due, m = .tick ∧ x = .tick ∧ r.due = some due ∧ due ≤ r.now) := by
  cases m with
  | finish outcome => exact .inl ⟨outcome, rfl, (Option.some.inj h).symm⟩
  | look =>
      obtain ⟨newest, hnewest, rfl⟩ := Option.map_eq_some_iff.mp h
      exact .inr (.inl ⟨newest, rfl, rfl, hnewest⟩)
  | close =>
      simp only [stimulus?, Option.ite_none_right_eq_some, Option.some.injEq] at h
      obtain ⟨⟨hcoming, hunread⟩, rfl⟩ := h
      exact .inr (.inr (.inl ⟨rfl, rfl, hcoming, hunread⟩))
  | tick =>
      simp only [stimulus?, Option.ite_none_right_eq_some, Option.some.injEq, Option.any_eq_true,
        decide_eq_true_eq] at h
      obtain ⟨⟨due, hdue, hle⟩, rfl⟩ := h
      exact .inr (.inr (.inr ⟨due, rfl, rfl, hdue, hle⟩))
  | wait _ | report | answer _ => cases h

/-- **What happens without the loop**: time passes, or the next report comes in. -/
theorem background_cases (h : r.background? m = some r') :
    (∃ ms, m = .wait ms ∧ r' = { r with now := r.now + ms }) ∨
    (∃ p rest, m = .report ∧ r.coming = p :: rest ∧
      r' = { r with coming := rest, unread := r.unread ++ [p] }) := by
  cases m with
  | wait ms => exact .inl ⟨ms, rfl, (Option.some.inj h).symm⟩
  | report =>
      cases hcoming : r.coming with
      | nil => simp [background?, hcoming] at h
      | cons p rest =>
          simp only [background?, hcoming, Option.some.injEq] at h
          exact .inr ⟨p, rest, rfl, rfl, h.symm⟩
  | finish _ | look | close | tick | answer _ => cases h

/-- What happens beside the loop leaves the loop and its past alone. -/
theorem background_frame (h : r.background? m = some r') :
    r'.turn = r.turn ∧ r'.upload = r.upload ∧ r'.answers = r.answers ∧ r'.events = r.events ∧
      r'.due = r.due := by
  obtain ⟨_, -, rfl⟩ | ⟨_, _, -, -, rfl⟩ := background_cases h <;> exact ⟨rfl, rfl, rfl, rfl, rfl⟩

/-- The answers are those that some move has brought. -/
theorem answers_of_move (h : r.move? period m = some r') :
    r'.answers = r.answers ++ match m with
      | .answer a => [a]
      | _ => [] := by
  rcases move_cases h with ⟨hback, -⟩ | ⟨s, x, -, hx, -, rfl⟩ | ⟨s, a, -, rfl, rfl⟩
  · rw [(background_frame hback).2.2.1]
    cases m with
    | answer a => cases hback
    | wait _ | report | finish _ | look | close | tick => simp
  · obtain ⟨_, rfl, -⟩ | ⟨_, rfl, -⟩ | ⟨rfl, -⟩ | ⟨_, rfl, -⟩ := stimulus_cases hx <;>
      exact (List.append_nil _).symm
  · rfl

/-- Once an update is over, nothing more happens to it. -/
theorem move?_eq_none_of_isOver (h : r.IsOver) : r.move? period m = none := by
  obtain ⟨l, result, hturn⟩ := h
  simp [move?, hturn]

/-- What moves is not over. -/
theorem not_isOver_of_move (h : r.move? period m = some r') : ¬ r.IsOver := by
  intro hover
  rw [move?_eq_none_of_isOver hover] at h
  cases h

/-- A run of some moves and then others is a run of the others where the first ones lead. -/
theorem run_append (r : UpdateRun) (ms ns : List UpdateMove) :
    r.run period (ms ++ ns) = (r.run period ms).bind fun r => r.run period ns := by
  induction ms generalizing r with
  | nil => rfl
  | cons m ms ih =>
      simp only [List.cons_append, run, Option.bind_assoc]
      congr 1
      funext r
      exact ih r

/-- A move that can be made is the first one of a run. -/
theorem run_cons (h : r.move? period m = some r') (moves : List UpdateMove) :
    r.run period (m :: moves) = r'.run period moves := by
  rw [run, h, Option.bind_some]

/-- A run of a single move is that move. -/
@[simp] theorem run_singleton (r : UpdateRun) (m : UpdateMove) :
    r.run period [m] = r.move? period m := by
  simp [run]

/-- Reports that come in wait to be seen. -/
theorem run_reports (period : Nat) {s : UpdateLoop Failure} (before after : List UploadProgress)
    (hturn : r.turn = .select s) (hcoming : r.coming = before ++ after) :
    r.run period (before.map fun _ => .report) =
      some { r with coming := after, unread := r.unread ++ before } := by
  induction before generalizing r with
  | nil =>
      obtain rfl : r.coming = after := hcoming
      simp [run]
  | cons p before ih =>
      have hmove : r.move? period .report =
          some { r with coming := before ++ after, unread := r.unread ++ [p] } := by
        simp [move?, hturn, stimulus?, background?, hcoming]
      rw [List.map_cons, run, hmove, Option.bind_some,
        ih (r := { r with coming := before ++ after, unread := r.unread ++ [p] }) hturn rfl]
      simp

/-- An answer may come after any time. -/
theorem run_answer (period : Nat) {s : UpdateLoop Failure} (hturn : r.turn = .query s) (ms : Nat)
    (a : Except Failure UpdateReport) :
    r.run period [.wait ms, .answer a] = some
      (proceed period (consume period { r with now := r.now + ms } (.answer a)) (s.answer a)) := by
  simp [run, move?, hturn, background?]

/-- What every move keeps, every run keeps. -/
theorem run_induction {P : UpdateRun → Prop}
    (step : ∀ {r r' : UpdateRun} {m : UpdateMove}, P r → r.move? period m = some r' → P r')
    {moves : List UpdateMove} (h : r.run period moves = some r') (hr : P r) : P r' := by
  induction moves generalizing r with
  | nil => exact Option.some.inj h ▸ hr
  | cons m moves ih =>
      obtain ⟨r₁, hmove, hrun⟩ := Option.bind_eq_some_iff.mp h
      exact ih hrun (step hr hmove)

/-- A run that is over has made its last move. -/
theorem eq_nil_of_run_of_isOver {moves : List UpdateMove} (hover : r.IsOver)
    (h : r.run period moves = some r') : moves = [] ∧ r' = r := by
  cases moves with
  | nil => exact ⟨rfl, (Option.some.inj h).symm⟩
  | cons m moves =>
      simp only [run, move?_eq_none_of_isOver hover, Option.bind_none] at h
      cases h

/-! ### Soundness -/

/-- A run is sound if its turn is, and if the countdown falls due just when it is running. -/
structure Sound (r : UpdateRun) : Prop where
  turn : r.turn.Sound r.upload r.answers r.events
  timed : r.due.isSome = r.turn.counting

/-- The turn of a sound run is sound. -/
theorem Sound.turn_of {t : Turn Failure} (hr : r.Sound) (hturn : r.turn = t) :
    t.Sound r.upload r.answers r.events := hturn ▸ hr.turn

/-- A sound run has its account, over or not. -/
theorem Sound.account (hr : r.Sound) : Account r.turn.lifecycle r.answers r.events := by
  cases hturn : r.turn with
  | select s =>
      cases hr.turn_of hturn with
      | select _ sound => exact sound.account
  | query s =>
      cases hr.turn_of hturn with
      | query _ sound => exact sound.account
  | finished l result =>
      cases hr.turn_of hturn with
      | finished _ _ account => exact account

/-- The device is asked while a verdict is awaited, and none has been given. -/
theorem Sound.undecided_of_query {s : UpdateLoop Failure} (hr : r.Sound)
    (hturn : r.turn = .query s) :
    s.lifecycle.phase = .polling ∧ decision? r.answers = none := by
  cases hr.turn_of hturn with
  | query _ sound polling => exact ⟨polling, (sound.account.undecided_of_polling polling).1⟩

/-- A run that is over has one of the four outcomes. -/
theorem Sound.outcome {l : Lifecycle} {result : Except Failure UpdatePhase} (hr : r.Sound)
    (hturn : r.turn = .finished l result) :
    Account l r.answers r.events ∧ Outcome r.upload r.answers l result := by
  cases hr.turn_of hturn with
  | finished _ _ account outcome => exact ⟨account, outcome⟩

/-- After a turn the countdown falls due just when it is running. -/
theorem proceed_timed (r : UpdateRun) (outcome : List UpdateEvent × Turn Failure) :
    (r.proceed period outcome).due.isSome = outcome.2.counting := by
  cases h : outcome.2.counting <;> simp [proceed, h]

/-- Every move keeps a run sound. -/
theorem Sound.move (hr : r.Sound) (h : r.move? period m = some r') : r'.Sound := by
  rcases move_cases h with ⟨hback, -⟩ | ⟨s, x, hturn, hx, -, rfl⟩ | ⟨s, a, hturn, rfl, rfl⟩
  · obtain ⟨hturn, hupload, hanswers, hevents, hdue⟩ := background_frame hback
    exact ⟨by rw [hturn, hupload, hanswers, hevents]; exact hr.turn,
      by rw [hdue, hturn]; exact hr.timed⟩
  · have hsound := hr.turn_of hturn
    refine ⟨?_, proceed_timed _ _⟩
    obtain ⟨outcome, rfl, rfl⟩ | ⟨newest, rfl, rfl, -⟩ | ⟨rfl, rfl, -⟩ | ⟨_, rfl, rfl, -⟩ :=
      stimulus_cases hx
    · exact hsound.uploadEnded outcome
    · exact hsound.take (by simp)
    · exact hsound.take (by simp)
    · exact hsound.take (by simp)
  · exact ⟨(hr.turn_of hturn).answer a, proceed_timed _ _⟩

/-- **Every run stays sound.** -/
theorem Sound.run {moves : List UpdateMove} (hr : r.Sound) (h : r.run period moves = some r') :
    r'.Sound :=
  run_induction (fun hr hmove => hr.move hmove) h hr

/-- An update of one image begins unless another one is going on. -/
theorem start_of_idle {now : Nat} {l : Lifecycle} {image : FirmwareImage}
    {coming : List UploadProgress} (hidle : l.phase = .idle) :
    start now l [image] coming = ⟨now, .select (.begin l.submitted image), coming, [], none,
      .inFlight, [], [.uploading]⟩ := by
  simp [start, Lifecycle.submit, Lifecycle.submitted, hidle]

/-- An update that has been submitted is sound. -/
theorem sound_start (now : Nat) {l : Lifecycle} (image : FirmwareImage)
    (coming : List UploadProgress) (hidle : l.phase = .idle) :
    (start now l [image] coming).Sound := by
  have haccount : Account l.submitted [] [.uploading] := .uploading rfl rfl rfl
  rw [start_of_idle hidle]
  refine ⟨.select _ ⟨haccount, by simp, rfl, rfl, ?_, ?_, ?_⟩ ?_ ?_ ?_ ?_, rfl⟩ <;>
    simp [UpdateLoop.begin, Lifecycle.submitted]

/-- Every move is one step of the update at most. -/
theorem Sound.next (hr : r.Sound) (h : r.move? period m = some r') :
    r.turn.lifecycle.Next r'.turn.lifecycle := by
  rcases move_cases h with ⟨hback, -⟩ | ⟨s, x, hturn, -, -, rfl⟩ | ⟨s, a, hturn, -, rfl⟩
  · rw [(background_frame hback).1]
    exact .refl _
  · rw [hturn]
    exact (hr.turn_of hturn).take_next x
  · rw [hturn]
    exact (hr.turn_of hturn).answer_next a

/-- The countdown keeps where it begins. -/
theorem Sound.start_of_run {moves : List UpdateMove} (hr : r.Sound)
    (h : r.run period moves = some r') :
    r'.turn.lifecycle.start = r.turn.lifecycle.start :=
  (run_induction (P := fun x => x.Sound ∧ x.turn.lifecycle.start = r.turn.lifecycle.start)
    (fun hx hmove => ⟨hx.1.move hmove, (hx.1.next hmove).start.trans hx.2⟩) h ⟨hr, rfl⟩).2

end UpdateRun

/-! ### The end of a run -/

/-- How many steps of the countdown an update may still take. -/
def Lifecycle.left (l : Lifecycle) : Nat :=
  match l.phase with
  | .uploading | .polling => l.start
  | .rebooting => l.countdown.getD 0
  | .idle | .succeeded | .failed => 0

/-- How many turns a loop may still take besides those for reports of progress; the end of the
upload request counts twice, because of the query that follows it. -/
def UpdateLoop.rank (s : UpdateLoop Failure) : Nat :=
  (if s.ended then 0 else 2) + (if s.listening then 1 else 0) + s.lifecycle.left

/-- A query that waits for its answer counts once more. -/
def Turn.rank : Turn Failure → Nat
  | .select s => s.rank
  | .query s => s.rank + 1
  | .finished _ _ => 0

@[simp] theorem Turn.rank_select (s : UpdateLoop Failure) : (Turn.select s).rank = s.rank := rfl

@[simp] theorem Turn.rank_query (s : UpdateLoop Failure) : (Turn.query s).rank = s.rank + 1 := rfl

/-- The end of a turn does not raise the rank. -/
theorem UpdateLoop.settle_rank (s : UpdateLoop Failure) : s.settle.2.rank ≤ s.rank := by
  simp only [UpdateLoop.settle, UpdateLoop.conclude]
  split
  · split
    · split <;> exact Nat.zero_le _
    · exact Nat.zero_le _
  · exact Nat.le_refl _

/-- Progress costs one query at most. -/
theorem UpdateLoop.progress_rank (s : UpdateLoop Failure) (p : UploadProgress) :
    (s.progress p).2.rank ≤ s.rank + 1 := by
  rcases s.progress_cases p with ⟨hawaits, -, heq⟩ | ⟨-, heq⟩
  · rw [heq]
    cases hp : s.lifecycle.phase <;>
      simp [Turn.rank, UpdateLoop.rank, Lifecycle.left, hp, UpdatePhase.awaitsVerdict] at hawaits ⊢
  · rw [heq]
    exact Nat.le_succ_of_le s.settle_rank

/-- A report leaves no more of the countdown than there was. -/
theorem Lifecycle.report_left {l : Lifecycle} (hp : l.phase = .polling) (r : UpdateReport) :
    (l.report r).2.left ≤ l.left := by
  simp only [report, hp, ne_eq, not_true_eq_false, if_false]
  cases r.verdict <;> simp [left, hp]

/-- Every ready stimulus but progress lowers the rank. -/
theorem Turn.Sound.take_rank {s : UpdateLoop Failure} {upload : UploadRequest}
    {answers : List (Except Failure UpdateReport)} {events : List UpdateEvent}
    (h : Turn.Sound upload answers events (.select s)) {x : Stimulus Failure}
    (hready : s.isReady x = true) (hx : ∀ p, x ≠ .progress p) : (s.take x).2.rank < s.rank := by
  cases h with
  | select _ sound =>
      cases x with
      | progress p => exact absurd rfl (hx p)
      | uploadEnded outcome =>
          have hended : s.ended = false := by simpa [UpdateLoop.isReady] using hready
          have hle := (s.afterUpload outcome).progress_rank s.wholeImage
          have hlt : (s.afterUpload outcome).rank + 2 = s.rank := by
            change 0 + (if s.listening then 1 else 0) + s.lifecycle.left + 2 = s.rank
            simp only [UpdateLoop.rank, hended, Bool.false_eq_true, if_false]
            omega
          rw [UpdateLoop.take_uploadEnded]
          omega
      | closed =>
          have hlisten : s.listening = true := hready
          have hle := UpdateLoop.settle_rank { s with listening := false }
          refine Nat.lt_of_le_of_lt hle ?_
          simp only [UpdateLoop.rank, hlisten, Bool.false_eq_true, if_true, if_false]
          omega
      | tick =>
          have hp := sound.counting hready
          obtain ⟨k, hk⟩ := sound.account.countdown_of_rebooting hp
          have hleft : s.lifecycle.left = k + 1 := by simp [Lifecycle.left, hp, hk]
          rcases Nat.eq_zero_or_pos k with rfl | hpos
          · rw [UpdateLoop.take_tick_last hp hk]
            simp [Turn.rank, UpdateLoop.rank, hleft]
          · have hle := (s.countedDown k).settle_rank
            have hlt : (s.countedDown k).lifecycle.left = k := by
              simp [Lifecycle.left, UpdateLoop.countedDown, hp]
            rw [UpdateLoop.take_tick_of_pos hp hk hpos]
            refine Nat.lt_of_le_of_lt hle ?_
            simp only [UpdateLoop.rank, hlt, hleft]
            exact Nat.lt_succ_self _

/-- An answer lowers the rank. -/
theorem Turn.Sound.answer_rank {s : UpdateLoop Failure} {upload : UploadRequest}
    {answers : List (Except Failure UpdateReport)} {events : List UpdateEvent}
    (h : Turn.Sound upload answers events (.query s)) (a : Except Failure UpdateReport) :
    (s.answer a).2.rank ≤ s.rank := by
  cases h with
  | query _ _ polling =>
      cases a with
      | error e => exact s.settle_rank
      | ok report =>
          have hle := UpdateLoop.settle_rank { s with lifecycle := (s.lifecycle.report report).2 }
          refine Nat.le_trans hle ?_
          have hleft := Lifecycle.report_left polling report
          simp only [UpdateLoop.rank]
          omega

/-- Whether a move is waiting. -/
def UpdateMove.isWait : UpdateMove → Bool
  | .wait _ => true
  | _ => false

/-- Whether a move does what the world does: the upload request ends with this outcome, and this is
what becomes of the query. -/
def UpdateMove.Agrees (outcome : Except Failure Unit) (answer : Except Failure UpdateReport) :
    UpdateMove → Prop
  | .finish outcome' => outcome' = outcome
  | .answer answer' => answer' = answer
  | .wait _ | .report | .look | .close | .tick => True

namespace UpdateRun

variable {period : Nat} {r r' : UpdateRun} {m : UpdateMove}

/-- **The rank of a run**: a bound for the moves besides waiting that it can still make. A report
to come costs a move to come in, one to be seen, and a query. -/
def rank (r : UpdateRun) : Nat := 3 * r.coming.length + 2 * r.unread.length + r.turn.rank

/-- Waiting changes the time and nothing else. -/
theorem eq_of_wait (h : r.move? period m = some r') (hm : m.isWait = true) :
    ∃ ms, r' = { r with now := r.now + ms } := by
  cases m with
  | wait ms =>
      rcases move_cases h with ⟨hback, -⟩ | ⟨s, x, -, hx, -⟩ | ⟨s, a, -, ha, -⟩
      · exact ⟨ms, (Option.some.inj hback).symm⟩
      · cases hx
      · cases ha
  | report | finish _ | look | close | tick | answer _ => cases hm

/-- Waiting keeps the rank. -/
theorem rank_of_wait (h : r.move? period m = some r') (hm : m.isWait = true) :
    r'.rank = r.rank := by
  obtain ⟨ms, rfl⟩ := eq_of_wait h hm
  rfl

/-- **Every move but waiting lowers the rank.** -/
theorem Sound.rank_lt (hr : r.Sound) (h : r.move? period m = some r') (hm : m.isWait = false) :
    r'.rank < r.rank := by
  rcases move_cases h with ⟨hback, -⟩ | ⟨s, x, hturn, hx, hready, rfl⟩ | ⟨s, a, hturn, rfl, rfl⟩
  · obtain ⟨_, rfl, -⟩ | ⟨p, rest, rfl, hcoming, rfl⟩ := background_cases hback
    · cases hm
    · simp only [rank, hcoming, List.length_append, List.length_cons, List.length_nil]
      omega
  · have hsound := hr.turn_of hturn
    obtain ⟨outcome, rfl, rfl⟩ | ⟨newest, rfl, rfl, hnewest⟩ | ⟨rfl, rfl, -⟩ | ⟨_, rfl, rfl, -⟩ :=
      stimulus_cases hx
    · have hlt := hsound.take_rank hready (by simp)
      simp only [rank, hturn, consume, proceed, Turn.rank_select]
      omega
    · have hle := s.progress_rank newest
      have hpos : 0 < r.unread.length := by
        cases hunread : r.unread with
        | nil => simp [hunread] at hnewest
        | cons _ _ => simp
      simp only [rank, hturn, consume, proceed, Turn.rank_select, UpdateLoop.take, List.length_nil]
      omega
    · have hlt := hsound.take_rank hready (by simp)
      simp only [rank, hturn, consume, proceed, Turn.rank_select]
      omega
    · have hlt := hsound.take_rank hready (by simp)
      simp only [rank, hturn, consume, proceed, Turn.rank_select]
      omega
  · have hle := (hr.turn_of hturn).answer_rank a
    simp only [rank, hturn, consume, proceed, Turn.rank_query]
    omega

/-- No move raises the rank. -/
theorem Sound.rank_le (hr : r.Sound) (h : r.move? period m = some r') : r'.rank ≤ r.rank := by
  cases hwait : m.isWait with
  | true => exact Nat.le_of_eq (rank_of_wait h hwait)
  | false => exact Nat.le_of_lt (hr.rank_lt h hwait)

/-- **A bound for the moves of a run** that are not waiting. -/
theorem Sound.length_moves {moves : List UpdateMove} (hr : r.Sound)
    (h : r.run period moves = some r') :
    (moves.filter fun m => !m.isWait).length + r'.rank ≤ r.rank := by
  induction moves generalizing r with
  | nil =>
      obtain rfl := Option.some.inj h
      simp
  | cons m moves ih =>
      obtain ⟨r₁, hmove, hrun⟩ := Option.bind_eq_some_iff.mp h
      have hrest := ih (hr.move hmove) hrun
      cases hwait : m.isWait with
      | true => simpa [hwait, ← rank_of_wait hmove hwait] using hrest
      | false =>
          have := hr.rank_lt hmove hwait
          simp only [hwait, List.filter_cons, Bool.not_false, if_true, List.length_cons]
          omega

/-- Time may pass as long as the update is not over. -/
theorem move?_wait (period : Nat) (hover : ¬ r.IsOver) (ms : Nat) :
    r.move? period (.wait ms) = some { r with now := r.now + ms } := by
  cases hturn : r.turn with
  | finished l result => exact absurd ⟨l, result, hturn⟩ hover
  | select s | query s => simp [move?, hturn, stimulus?, background?]

/-- While its end has not been taken up the upload request is in flight. -/
theorem Sound.inFlight {s : UpdateLoop Failure} (hr : r.Sound) (hturn : r.turn = .select s)
    (hended : s.ended = false) : r.upload = .inFlight := by
  cases hr.turn_of hturn with
  | select _ sound =>
      have hflight := sound.ended
      cases hupload : r.upload with
      | unsent => exact absurd hupload sound.sent
      | inFlight => rfl
      | ended outcome =>
          rw [hupload, hended] at hflight
          cases hflight

/-- **Something is always left to wait for.** While the loop waits, the upload request is in flight,
reports may still come in, or the countdown runs and has a time at which it falls due. -/
theorem Sound.busy {s : UpdateLoop Failure} (hr : r.Sound) (hturn : r.turn = .select s) :
    (s.ended = false ∧ r.upload = .inFlight) ∨ s.listening = true ∨
      (s.counting = true ∧ r.due.isSome = true) := by
  have htimed := hr.timed
  rw [hturn] at htimed
  cases hended : s.ended with
  | false => exact .inl ⟨rfl, hr.inFlight hturn hended⟩
  | true =>
      cases hr.turn_of hturn with
      | select _ _ _ _ _ busy =>
          by_cases hlisten : s.listening = true
          · exact .inr (.inl hlisten)
          · have hcount := busy hended (by simpa using hlisten)
            exact .inr (.inr ⟨hcount, htimed.trans hcount⟩)

/-- **A run is never stuck.** As long as the update is not over some move that is not waiting can be
made, from some time on, whatever the upload request comes to and whatever becomes of a query. -/
theorem Sound.exists_ready (period : Nat) (hr : r.Sound) (hover : ¬ r.IsOver)
    (outcome : Except Failure Unit) (answer : Except Failure UpdateReport) :
    ∃ m time, m.isWait = false ∧ m.Agrees outcome answer ∧
      ∀ now, time ≤ now → (move? period { r with now } m).isSome = true := by
  cases hturn : r.turn with
  | finished l result => exact absurd ⟨l, result, hturn⟩ hover
  | query s => exact ⟨.answer answer, 0, rfl, rfl, by simp [move?]⟩
  | select s =>
      rcases hr.busy hturn with ⟨hended, -⟩ | hlisten | ⟨hcount, hdue⟩
      · exact ⟨.finish outcome, 0, rfl, rfl,
          by simp [move?, stimulus?, UpdateLoop.isReady, hended]⟩
      · -- The newest report comes first, then those to come, then the end of all of them.
        cases hunread : r.unread.getLast? with
        | some newest =>
            exact ⟨.look, 0, rfl, trivial,
              by simp [move?, stimulus?, hunread, UpdateLoop.isReady, hlisten]⟩
        | none =>
            have hnil := List.getLast?_eq_none_iff.mp hunread
            cases hcoming : r.coming with
            | cons p rest =>
                exact ⟨.report, 0, rfl, trivial, by simp [move?, stimulus?, background?]⟩
            | nil =>
                exact ⟨.close, 0, rfl, trivial,
                  by simp [move?, stimulus?, hnil, UpdateLoop.isReady, hlisten]⟩
      · obtain ⟨d, hdue⟩ := Option.isSome_iff_exists.mp hdue
        refine ⟨.tick, d, rfl, trivial, fun now hle => ?_⟩
        simp [move?, stimulus?, hdue, UpdateLoop.isReady, hcount, hle]

/-- Some move that is not waiting can be made, if need be after waiting for the countdown. -/
theorem Sound.exists_move (period : Nat) (hr : r.Sound) (hover : ¬ r.IsOver)
    (outcome : Except Failure Unit) (answer : Except Failure UpdateReport) :
    ∃ ms m r', m.Agrees outcome answer ∧ r.run period [.wait ms, m] = some r' ∧
      r'.rank < r.rank := by
  obtain ⟨m, time, hm, hagrees, hready⟩ := hr.exists_ready period hover outcome answer
  have hwait := move?_wait period hover (time - r.now)
  obtain ⟨r', hmove⟩ := Option.isSome_iff_exists.mp (hready (r.now + (time - r.now)) (by omega))
  refine ⟨time - r.now, m, r', hagrees, ?_, ?_⟩
  · rw [run_cons hwait, run_singleton, hmove]
  · exact rank_of_wait hwait rfl ▸ (hr.move hwait).rank_lt hmove hm

/-- **Every run can be brought to its end.** -/
theorem Sound.exists_over (period : Nat) (hr : r.Sound) :
    ∃ moves r', r.run period moves = some r' ∧ r'.IsOver := by
  induction hn : r.rank using Nat.strongRecOn generalizing r with
  | ind n ih =>
      by_cases hover : r.IsOver
      · exact ⟨[], r, rfl, hover⟩
      · obtain ⟨ms, m, r₁, -, hmove, hlt⟩ :=
          hr.exists_move period hover (.ok ()) (.ok ⟨.pending, "", ""⟩)
        obtain ⟨ns, r', hns, hend⟩ := ih r₁.rank (hn ▸ hlt) (hr.run hmove) rfl
        exact ⟨[.wait ms, m] ++ ns, r', by rw [run_append, hmove, Option.bind_some, hns], hend⟩

end UpdateRun

end FanControl
