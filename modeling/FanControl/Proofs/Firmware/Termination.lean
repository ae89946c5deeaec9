import FanControl.Proofs.Firmware.Clock
import FanControl.Proofs.Firmware.InFlight
import Mathlib.Order.Monotone.Basic
import Mathlib.Data.Nat.Find

/-!
# The turns of an update, and their end

Three kinds of things keep the loop of an update busy: reports of progress, the two events that
happen once (the upload request ends, and all reports have been seen), and the steps of the
countdown. Each turn uses one of them up, whatever is ready at the same moment and whatever the
device answers. So what is left of them bounds the turns to come (`UpdateRun.turnsLeft`), where
`UpdateRun.rank` bounds all moves but waiting.

A bound for the turns does not say that the update ends, because time may pass instead of a turn.
An `UpdateRun.Execution` is what happens to an update in all time to come, and it is **timely** if
nothing takes for ever: the clock goes on, and as long as something can be done, something is.
Every timely execution comes to its end, and every run has one.

## Main definitions

* `UpdateRun.turnsLeft`: a bound for the turns to come;
* `UpdateRun.Execution`, `UpdateRun.Execution.Timely`: moves without end, and without endless delay.

## Main results

* `UpdateRun.Sound.turns_of_run`: the turns of a run against what they use up;
* `UpdateRun.Execution.Timely.exists_over`: every timely execution comes to its end;
* `UpdateRun.loop_terminates`: how many turns an update takes, that it ends, and that it is never
  without anything to wait for.
-/

namespace FanControl

/-- Whether a move begins a turn of the loop. -/
def UpdateMove.isTurn : UpdateMove → Bool
  | .finish _ | .look | .close | .tick => true
  | .wait _ | .report | .answer _ => false

/-- Whether a stimulus is one of the two that come once: the end of the upload request, or the end
of all reports. -/
def Stimulus.isEnd {ε : Type} : Stimulus ε → Bool
  | .uploadEnded _ | .closed => true
  | .progress _ | .tick => false

/-- What happens once and is still to come: the end of the upload request, and the end of all
reports. -/
def UpdateLoop.endsLeft (s : UpdateLoop Failure) : Nat :=
  (!s.ended).toNat + s.listening.toNat

/-- What happens once and is still to come after a turn; nothing, if the update is over. -/
def Turn.endsLeft (t : Turn Failure) : Nat :=
  (t.loop?.map UpdateLoop.endsLeft).getD 0

@[simp] theorem Turn.endsLeft_select (s : UpdateLoop Failure) :
    (Turn.select s).endsLeft = s.endsLeft := rfl

@[simp] theorem Turn.endsLeft_query (s : UpdateLoop Failure) :
    (Turn.query s).endsLeft = s.endsLeft := rfl

/-- A turn that leaves the flags alone leaves no more of the two than there was. -/
theorem Turn.endsLeft_le {t : Turn Failure} {s : UpdateLoop Failure}
    (h : ∀ {s'}, t.loop? = some s' → s'.ended = s.ended ∧ s'.listening = s.listening) :
    t.endsLeft ≤ s.endsLeft := by
  cases hnext : t.loop? with
  | none => simp [endsLeft, hnext]
  | some s' =>
      obtain ⟨hended, hlisten⟩ := h hnext
      simp [endsLeft, hnext, UpdateLoop.endsLeft, hended, hlisten]

/-- **The two ends come once.** A turn that takes one of them up leaves one less, and no other turn
leaves more. -/
theorem UpdateLoop.take_endsLeft {s : UpdateLoop Failure} {x : Stimulus Failure}
    (hready : s.isReady x = true) :
    (if x.isEnd then 1 else 0) + (s.take x).2.endsLeft ≤ s.endsLeft := by
  cases x with
  | uploadEnded outcome =>
      have hended : s.ended = false := by simpa [isReady] using hready
      have hone : 1 + (s.afterUpload outcome).endsLeft = s.endsLeft := by
        simp [endsLeft, afterUpload, hended]
      rw [← hone, take_uploadEnded]
      exact Nat.add_le_add_left (Turn.endsLeft_le progress_flags) 1
  | closed =>
      have hlisten : s.listening = true := hready
      have hone : 1 + endsLeft { s with listening := false } = s.endsLeft := by
        simp [endsLeft, hlisten, Nat.add_comm]
      rw [← hone]
      exact Nat.add_le_add_left (Turn.endsLeft_le settle_flags) 1
  | progress newest => exact (Nat.zero_add _).trans_le (Turn.endsLeft_le progress_flags)
  | tick =>
      refine (Nat.zero_add _).trans_le (Turn.endsLeft_le fun {s'} h => ?_)
      simpa using take_flags h

namespace UpdateRun

variable {period now : Nat} {l : Lifecycle} {coming : List UploadProgress} {r r' : UpdateRun}
  {m : UpdateMove}

/-! ### Turns -/

/-- A step of the countdown is taken while the device reboots. -/
theorem Sound.rebooting_of_tick (hr : r.Sound) (h : r.move? period .tick = some r') :
    r.phase = .rebooting := by
  rcases move_cases h with ⟨hback, -⟩ | ⟨s, x, hturn, hx, hready, -⟩ | ⟨s, a, -, ha, -⟩
  · cases hback
  · obtain ⟨_, hm, -⟩ | ⟨_, hm, -⟩ | ⟨hm, -⟩ | ⟨_, -, rfl, -⟩ := stimulus_cases hx
    · cases hm
    · cases hm
    · cases hm
    · cases hr.turn_of hturn with
      | select _ sound =>
          rw [phase, hturn]
          exact sound.counting hready
  · cases ha

/-- A move leaves no more of the countdown than there was, and a step of it leaves one less. -/
theorem Sound.left_of_move_le (hr : r.Sound) (h : r.move? period m = some r') :
    (if m.isTick then 1 else 0) + r'.turn.lifecycle.left ≤ r.turn.lifecycle.left := by
  by_cases hfailed : r'.phase = .failed
  · have hleft : r'.turn.lifecycle.left = 0 := by
      rw [phase] at hfailed
      simp [Lifecycle.left, hfailed]
    cases m with
    | tick =>
        have hfrom := (hr.next h).phase.into_failed hfailed
        rw [show r.turn.lifecycle.phase = .rebooting from hr.rebooting_of_tick h] at hfrom
        simp at hfrom
    | wait _ | report | finish _ | look | close | answer _ => simp [UpdateMove.isTick, hleft]
  · exact Nat.le_of_eq (hr.left_of_move h hfailed)

/-- **A bound for the turns to come**: one for each report that has not been seen, for each of the
two ends and for each step of the countdown. -/
def turnsLeft (r : UpdateRun) : Nat :=
  r.coming.length + r.unread.length + r.turn.endsLeft + r.turn.lifecycle.left

/-- What a turn uses up: some reports, one of the two ends, or a step of the countdown. -/
theorem consume_of_stimulus (period : Nat) {x : Stimulus Failure} (h : r.stimulus? m = some x) :
    m.isTurn = true ∧ (r.consume period m).coming = r.coming ∧
      1 + (r.consume period m).unread.length ≤
        r.unread.length + (if x.isEnd then 1 else 0) + (if m.isTick then 1 else 0) := by
  obtain ⟨outcome, rfl, rfl⟩ | ⟨newest, rfl, rfl, hnewest⟩ | ⟨rfl, rfl, -⟩ | ⟨_, rfl, rfl, -⟩ :=
    stimulus_cases h
  · exact ⟨rfl, rfl, Nat.le_of_eq (Nat.add_comm _ _)⟩
  · exact ⟨rfl, rfl, List.length_pos_of_mem (List.mem_of_getLast? hnewest)⟩
  · exact ⟨rfl, rfl, Nat.le_of_eq (Nat.add_comm _ _)⟩
  · exact ⟨rfl, rfl, Nat.le_of_eq (Nat.add_comm _ _)⟩

/-- **A turn uses something up**, and no other move adds anything. -/
theorem Sound.turnsLeft_of_move (hr : r.Sound) (h : r.move? period m = some r') :
    (if m.isTurn then 1 else 0) + r'.turnsLeft ≤ r.turnsLeft := by
  have hleft := hr.left_of_move_le h
  rcases move_cases h with ⟨hback, -⟩ | ⟨s, x, hturn, hx, hready, rfl⟩ | ⟨s, a, hturn, rfl, rfl⟩
  · obtain ⟨_, rfl, rfl⟩ | ⟨p, rest, rfl, hcoming, rfl⟩ := background_cases hback
    · exact Nat.le_of_eq (Nat.zero_add _)
    · simp only [turnsLeft, hcoming, List.length_append, List.length_cons, List.length_nil,
        UpdateMove.isTurn, Bool.false_eq_true, if_false]
      omega
  · have hends := UpdateLoop.take_endsLeft hready
    obtain ⟨hisTurn, hcoming, hused⟩ := consume_of_stimulus period hx
    simp only [turnsLeft, hturn, proceed, Turn.endsLeft_select, hisTurn, hcoming,
      if_true] at hleft ⊢
    omega
  · have hends : (s.answer a).2.endsLeft ≤ s.endsLeft := Turn.endsLeft_le UpdateLoop.answer_flags
    simp only [turnsLeft, hturn, consume, proceed, Turn.endsLeft_query, UpdateMove.isTurn,
      UpdateMove.isTick, Bool.false_eq_true, if_false] at hleft ⊢
    omega

/-- **The turns of a run** are bounded by what they use up. -/
theorem Sound.turns_of_run {moves : List UpdateMove} (hr : r.Sound)
    (h : r.run period moves = some r') :
    moves.countP (·.isTurn) + r'.turnsLeft ≤ r.turnsLeft := by
  induction moves generalizing r with
  | nil =>
      obtain rfl := Option.some.inj h
      simp
  | cons m moves ih =>
      obtain ⟨r₁, hmove, hrun⟩ := Option.bind_eq_some_iff.mp h
      have hstep := hr.turnsLeft_of_move hmove
      have hrest := ih (hr.move hmove) hrun
      rw [List.countP_cons]
      omega

/-! ### Executions -/

/-- What happens to a run in all time to come: move after move until the update is over, and nothing
from then on. -/
structure Execution (period : Nat) (r : UpdateRun) where
  state : Nat → UpdateRun
  move : Nat → UpdateMove
  begins : state 0 = r
  goesOn : ∀ n, ¬ (state n).IsOver → (state n).move? period (move n) = some (state (n + 1))
  rests : ∀ n, (state n).IsOver → state (n + 1) = state n

namespace Execution

/-- **Nothing takes for ever.** As long as the update is not over the clock goes on beyond every
time, and what can be done from some time on does not wait without end for something to be done. -/
structure Timely (e : Execution period r) : Prop where
  clock : ∀ n time, ∃ k, n ≤ k ∧ ((e.state k).IsOver ∨ time ≤ (e.state k).now)
  acts : ∀ n m, m.isWait = false → (∀ k, n ≤ k → ((e.state k).move? period m).isSome = true) →
    ∃ k, n ≤ k ∧ (e.move k).isWait = false

variable (e : Execution period r)

/-- The first `n` moves of an execution. -/
def moves (n : Nat) : List UpdateMove := (List.range n).map e.move

/-- The first moves of an execution and the next one are one more. -/
theorem moves_succ (n : Nat) : e.moves (n + 1) = e.moves n ++ [e.move n] := by
  simp [moves, List.range_succ]

/-- An execution of a sound run stays sound. -/
theorem sound (hr : r.Sound) (n : Nat) : (e.state n).Sound := by
  induction n with
  | zero =>
      rw [e.begins]
      exact hr
  | succ n ih =>
      by_cases hover : (e.state n).IsOver
      · rw [e.rests n hover]
        exact ih
      · exact ih.move (e.goesOn n hover)

/-- The first moves lead where the execution stands, as long as the update is not over before. -/
theorem run_moves {n : Nat} (hn : ∀ k < n, ¬ (e.state k).IsOver) :
    r.run period (e.moves n) = some (e.state n) := by
  induction n with
  | zero => exact congrArg some e.begins.symm
  | succ n ih =>
      have hrun := ih fun k hk => hn k (Nat.lt_succ_of_lt hk)
      rw [moves_succ, run_append, hrun, Option.bind_some, run_singleton,
        e.goesOn n (hn n (Nat.lt_succ_self n))]

/-- The rank does not grow in an execution. -/
theorem antitone_rank (hr : r.Sound) : Antitone fun n => (e.state n).rank := by
  refine antitone_nat_of_succ_le fun n => ?_
  by_cases hover : (e.state n).IsOver
  · rw [e.rests n hover]
  · exact (e.sound hr n).rank_le (e.goesOn n hover)

variable {e}

/-- While there is nothing but waiting, nothing changes but the time. -/
theorem state_of_waits {n : Nat}
    (hwaits : ∀ k, n ≤ k → ¬ (e.state k).IsOver ∧ (e.move k).isWait = true) {k : Nat}
    (hk : n ≤ k) : ∃ ms, e.state k = { e.state n with now := (e.state n).now + ms } := by
  induction k, hk using Nat.le_induction with
  | base => exact ⟨0, rfl⟩
  | succ k hk ih =>
      obtain ⟨before, hbefore⟩ := ih
      obtain ⟨hover, hwait⟩ := hwaits k hk
      obtain ⟨ms, hms⟩ := eq_of_wait (e.goesOn k hover) hwait
      exact ⟨before + ms, by simp [hms, hbefore, Nat.add_assoc]⟩

/-- **Something happens** again and again, until the update is over. -/
theorem Timely.exists_act (he : e.Timely) (hr : r.Sound) (n : Nat) :
    ∃ k, n ≤ k ∧ ((e.state k).IsOver ∨ (e.move k).isWait = false) := by
  by_contra hnone
  have hwaits : ∀ k, n ≤ k → ¬ (e.state k).IsOver ∧ (e.move k).isWait = true := by
    intro k hk
    refine ⟨fun hover => hnone ⟨k, hk, .inl hover⟩, ?_⟩
    by_contra hwait
    exact hnone ⟨k, hk, .inr (by simpa using hwait)⟩
  -- Some move gets ready, stays so, and is never made.
  obtain ⟨m, time, hm, -, hready⟩ := (e.sound hr n).exists_ready period
    (hwaits n (Nat.le_refl n)).1 (.ok ()) (.ok ⟨.pending, "", ""⟩)
  obtain ⟨k₀, hk₀, hover | htime⟩ := he.clock n time
  · exact (hwaits k₀ hk₀).1 hover
  · have hstays : ∀ k, k₀ ≤ k → ((e.state k).move? period m).isSome = true := by
      intro k hk
      obtain ⟨before, hbefore⟩ := state_of_waits hwaits hk₀
      obtain ⟨ms, hms⟩ := state_of_waits (fun k hk => hwaits k (hk₀.trans hk)) hk
      rw [hms, hbefore]
      rw [hbefore] at htime
      exact hready _ (Nat.le_add_right_of_le htime)
    obtain ⟨k, hk, hact⟩ := he.acts k₀ m hm hstays
    rw [(hwaits k (hk₀.trans hk)).2] at hact
    cases hact

/-- **Every timely execution comes to its end.** -/
theorem Timely.exists_over (he : e.Timely) (hr : r.Sound) (n : Nat) :
    ∃ k, n ≤ k ∧ (e.state k).IsOver := by
  induction hrank : (e.state n).rank using Nat.strongRecOn generalizing n with
  | ind rank ih =>
      obtain ⟨k, hk, hover | hact⟩ := he.exists_act hr n
      · exact ⟨k, hk, hover⟩
      · by_cases hover : (e.state k).IsOver
        · exact ⟨k, hk, hover⟩
        · have hlt := (e.sound hr k).rank_lt (e.goesOn k hover) hact
          have hle := e.antitone_rank hr hk
          obtain ⟨k', hk', hend⟩ := ih _ (hrank ▸ hlt.trans_le hle) (k + 1) rfl
          exact ⟨k', by omega, hend⟩

/-- The moves of a timely execution until the update is over are a run. -/
theorem Timely.exists_run (he : e.Timely) (hr : r.Sound) :
    ∃ n, (e.state n).IsOver ∧ r.run period (e.moves n) = some (e.state n) := by
  classical
  obtain ⟨k, -, hover⟩ := he.exists_over hr 0
  have hends : ∃ n, (e.state n).IsOver := ⟨k, hover⟩
  exact ⟨Nat.find hends, Nat.find_spec hends, e.run_moves fun k hk => Nat.find_min hends hk⟩

/-! ### Timely executions -/

/-- The execution of a run that is over: it rests. -/
def rest (period : Nat) (hover : r.IsOver) : Execution period r where
  state _ := r
  move _ := .wait 0
  begins := rfl
  goesOn _ hgoes := absurd hover hgoes
  rests _ _ := rfl

/-- The execution that makes a move and then goes on like another one. -/
def cons (h : r.move? period m = some r') (e : Execution period r') : Execution period r where
  state
    | 0 => r
    | n + 1 => e.state n
  move
    | 0 => m
    | n + 1 => e.move n
  begins := rfl
  goesOn
    | 0, _ => h.trans (congrArg some e.begins.symm)
    | n + 1, hgoes => e.goesOn n hgoes
  rests
    | 0, hover => absurd hover (not_isOver_of_move h)
    | n + 1, hover => e.rests n hover

@[simp] theorem moves_cons (h : r.move? period m = some r') (e : Execution period r') (n : Nat) :
    (e.cons h).moves (n + 1) = m :: e.moves n := by
  simp [moves, List.range_succ_eq_map, cons, Function.comp_def]

/-- Resting takes no time. -/
theorem timely_rest (period : Nat) (hover : r.IsOver) : (rest period hover).Timely where
  clock n _ := ⟨n, Nat.le_refl n, .inl hover⟩
  acts n m _ hready := by
    have hnone : ((rest period hover).state n).move? period m = none :=
      move?_eq_none_of_isOver hover
    simpa [hnone] using hready n (Nat.le_refl n)

/-- One move more delays nothing. -/
theorem Timely.cons {e : Execution period r'} (he : e.Timely) (h : r.move? period m = some r') :
    (e.cons h).Timely where
  clock n time := by
    obtain ⟨k, hk, htime⟩ := he.clock n time
    exact ⟨k + 1, Nat.le_succ_of_le hk, htime⟩
  acts n m hm hready := by
    obtain ⟨k, hk, hact⟩ := he.acts n m hm fun k hk => hready (k + 1) (Nat.le_succ_of_le hk)
    exact ⟨k + 1, Nat.le_succ_of_le hk, hact⟩

/-- Moves before a timely execution delay nothing. -/
theorem Timely.append {moves : List UpdateMove} {e : Execution period r'} (he : e.Timely)
    (h : r.run period moves = some r') :
    ∃ e' : Execution period r, e'.Timely ∧ e'.moves moves.length = moves := by
  induction moves generalizing r with
  | nil =>
      obtain rfl := Option.some.inj h
      exact ⟨e, he, rfl⟩
  | cons m moves ih =>
      obtain ⟨r₁, hmove, hrun⟩ := Option.bind_eq_some_iff.mp h
      obtain ⟨e₁, he₁, hmoves⟩ := ih hrun
      exact ⟨e₁.cons hmove, he₁.cons hmove, by rw [List.length_cons, moves_cons, hmoves]⟩

end Execution

/-- **Every run goes on in time.** Whatever has been done, what follows can be done without endless
delay. -/
theorem Sound.exists_timely {moves : List UpdateMove} (hr : r.Sound)
    (h : r.run period moves = some r') :
    ∃ e : Execution period r, e.Timely ∧ e.moves moves.length = moves := by
  obtain ⟨more, r'', hmore, hover⟩ := (hr.run h).exists_over period
  obtain ⟨e, he, -⟩ := (Execution.timely_rest period hover).append hmore
  exact he.append h

/-! ### The end of the loop -/

/-- **The loop of an update terminates.** It takes one turn for each report at most, one for the
end of the upload request, one for the end of all reports, and one for each step of the countdown;
and while it waits, the upload request is in flight, reports may come in, or the countdown is
running. So it returns as soon as nothing takes for ever, in whatever order things happen. -/
theorem loop_terminates {c : Nat} {image : FirmwareImage} (hcount : l.start = max c 1)
    (hidle : l.phase = .idle) :
    (∀ moves r, (start now l [image] coming).run period moves = some r →
      moves.countP (·.isTurn) ≤ coming.length + max c 1 + 2 ∧
      ∀ s, r.turn = .select s →
        (s.ended = false ∧ r.upload = .inFlight) ∨ s.listening = true ∨
          (s.counting = true ∧ r.due.isSome = true)) ∧
    ∀ e : Execution period (start now l [image] coming), e.Timely →
      ∃ n, (e.state n).IsOver ∧
        (start now l [image] coming).run period (e.moves n) = some (e.state n) := by
  have hstart := sound_start now image coming hidle
  have hleft : (start now l [image] coming).turnsLeft = coming.length + max c 1 + 2 := by
    rw [start_of_idle hidle, ← hcount]
    simp [turnsLeft, Turn.lifecycle, Lifecycle.left, Lifecycle.submitted, UpdateLoop.begin,
      UpdateLoop.endsLeft]
    omega
  refine ⟨fun moves r h => ⟨?_, fun s hturn => (hstart.run h).busy hturn⟩,
    fun e he => he.exists_run hstart⟩
  have hturns := hstart.turns_of_run h
  omega

/-- One report and the shortest countdown, with as many turns as there can be: the request ends
before its report has been seen, and the device needs a second query. -/
theorem loop_terminates_fourTurns :
    (Lifecycle.new 0).start = max 0 1 ∧ (Lifecycle.new 0).phase = .idle ∧ ∃ moves r,
      (start 0 (.new 0) [⟨"fw.bin", [0x01, 0x02]⟩] [⟨1, some 2⟩]).run 10 moves = some r ∧
      r.IsOver ∧ moves.countP (·.isTurn) = 1 + max 0 1 + 2 ∧
      ∃ e : Execution 10 (start 0 (.new 0) [⟨"fw.bin", [0x01, 0x02]⟩] [⟨1, some 2⟩]),
        e.Timely ∧ e.moves moves.length = moves ∧ ∃ n, (e.state n).IsOver ∧
          (e.moves n).countP (·.isTurn) ≤ 1 + max 0 1 + 2 := by
  have hterminates :=
    @loop_terminates 10 0 (.new 0) [⟨1, some 2⟩] 0 ⟨"fw.bin", [0x01, 0x02]⟩ rfl rfl
  obtain ⟨r, hrun, hover⟩ : ∃ r,
      (start 0 (.new 0) [⟨"fw.bin", [0x01, 0x02]⟩] [⟨1, some 2⟩]).run 10
        [.finish (.ok ()), .answer (.ok ⟨.pending, "", ""⟩), .report, .look,
          .answer (.ok ⟨.complete, "Jan 1", "00:00"⟩), .close, .wait 10, .tick] = some r ∧
      r.IsOver := ⟨_, rfl, _, _, rfl⟩
  have hstart := sound_start 0 (l := .new 0) ⟨"fw.bin", [0x01, 0x02]⟩ [⟨1, some 2⟩] rfl
  obtain ⟨e, he, hmoves⟩ := hstart.exists_timely hrun
  obtain ⟨n, hend, hrun'⟩ := hterminates.2 e he
  exact ⟨rfl, rfl, _, r, hrun, hover, rfl, e, he, hmoves, n, hend, (hterminates.1 _ _ hrun').1⟩

end UpdateRun

end FanControl
