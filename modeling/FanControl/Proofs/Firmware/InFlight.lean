import FanControl.Proofs.Firmware.UpdateRun

/-!
# Updates that leave their upload in flight

An update that succeeds returns with the last step of its countdown, and the countdown does not
wait for the upload request. So the request may be **abandoned**: it is still in flight when the
update is over. This module says when.

Along a run the steps of the countdown are counted (`Sound.ticks_of_run`), the request has
ended just when its end is among the moves (`isEnded_iff_of_run`). From both follows the exact
condition for one run. For all runs of an upload there is another: as soon as it reports progress
of a known size, the device may be asked while it goes on (`exists_countsDown`).

## Main result

* `upload_ended_iff`: which runs end with their upload request, how late the others are, and for
  which uploads all runs do.
-/

namespace FanControl

/-- Whether a move is a step of the countdown. -/
def UpdateMove.isTick : UpdateMove → Bool
  | .tick => true
  | _ => false

/-- Whether a stimulus is a step of the countdown. -/
def Stimulus.isTick {ε : Type} : Stimulus ε → Bool
  | .tick => true
  | _ => false

namespace UpdateRun

variable {period now : Nat} {l : Lifecycle} {coming : List UploadProgress}
  {moves : List UpdateMove} {r r' : UpdateRun} {m : UpdateMove}

/-! ### The upload request -/

/-- The upload request changes only by its end. -/
theorem upload_of_move (h : r.move? period m = some r') :
    r'.upload = match m with
      | .finish outcome => .ended outcome
      | _ => r.upload := by
  rcases move_cases h with ⟨hback, -⟩ | ⟨s, x, hturn, hx, -, rfl⟩ | ⟨s, a, hturn, rfl, rfl⟩
  · rw [(background_frame hback).2.1]
    cases m with
    | finish outcome => cases hback
    | wait _ | report | look | close | tick | answer _ => rfl
  · obtain ⟨_, rfl, -⟩ | ⟨_, rfl, -⟩ | ⟨rfl, -⟩ | ⟨_, rfl, -⟩ := stimulus_cases hx <;> rfl
  · rfl

/-- A request that has ended stays so. -/
theorem isEnded_of_move (h : r.move? period m = some r') (hr : r.upload.isEnded = true) :
    r'.upload.isEnded = true := by
  rw [upload_of_move h]
  split
  · rfl
  · exact hr

/-- **The request has ended just when its end is among the moves.** -/
theorem isEnded_iff_of_run (hr : r.upload = .inFlight) (h : r.run period moves = some r') :
    r'.upload.isEnded = true ↔
      ∃ before outcome after, moves = before ++ .finish outcome :: after := by
  constructor
  · intro hended
    induction moves generalizing r with
    | nil =>
        obtain rfl := Option.some.inj h
        rw [hr] at hended
        cases hended
    | cons m moves ih =>
        obtain ⟨r₁, hmove, hrun⟩ := Option.bind_eq_some_iff.mp h
        cases m with
        | finish outcome => exact ⟨[], outcome, moves, rfl⟩
        | wait _ | report | look | close | tick | answer _ =>
            obtain ⟨before, outcome, after, rfl⟩ := ih ((upload_of_move hmove).trans hr) hrun
            exact ⟨_ :: before, outcome, after, rfl⟩
  · rintro ⟨before, outcome, after, rfl⟩
    rw [run_append] at h
    obtain ⟨r₀, -, h⟩ := Option.bind_eq_some_iff.mp h
    obtain ⟨r₁, hmove, hrun⟩ := Option.bind_eq_some_iff.mp h
    have hended : r₁.upload.isEnded = true := by rw [upload_of_move hmove]; rfl
    exact run_induction (P := fun x => x.upload.isEnded = true)
      (fun hx hmove => isEnded_of_move hmove hx) hrun hended

/-! ### Counting the steps of the countdown -/

/-- The end of a turn leaves the rest of the countdown as it is, unless the update fails. -/
theorem settle_left (s : UpdateLoop Failure) (hfailed : s.settle.2.lifecycle.phase ≠ .failed) :
    s.settle.2.lifecycle = s.lifecycle := by
  rcases s.settle_lifecycle with heq | ⟨-, -, heq⟩
  · exact heq
  · rw [heq] at hfailed
    exact absurd rfl hfailed

/-- Progress leaves the rest of the countdown as it is, unless the update fails. -/
theorem progress_left (s : UpdateLoop Failure) (p : UploadProgress)
    (hfailed : (s.progress p).2.lifecycle.phase ≠ .failed) :
    (s.progress p).2.lifecycle.left = s.lifecycle.left := by
  rcases s.progress_cases p with ⟨hawaits, -, heq⟩ | ⟨-, heq⟩
  · rw [heq]
    cases hp : s.lifecycle.phase <;>
      simp [Turn.lifecycle, Lifecycle.left, hp, UpdatePhase.awaitsVerdict] at hawaits ⊢
  · rw [heq] at hfailed ⊢
    rw [settle_left s hfailed]

/-- The countdown loses a step just when it is taken up. -/
theorem take_left {s : UpdateLoop Failure} {upload : UploadRequest}
    {answers : List (Except Failure UpdateReport)} {events : List UpdateEvent}
    (h : Turn.Sound upload answers events (.select s)) {x : Stimulus Failure}
    (hready : s.isReady x = true) (hfailed : (s.take x).2.lifecycle.phase ≠ .failed) :
    (if x.isTick then 1 else 0) + (s.take x).2.lifecycle.left = s.lifecycle.left := by
  cases h with
  | select _ sound =>
      cases x with
      | uploadEnded outcome =>
          rw [UpdateLoop.take_uploadEnded] at hfailed ⊢
          exact (Nat.zero_add _).trans (progress_left (s.afterUpload outcome) s.wholeImage hfailed)
      | progress newest => exact (Nat.zero_add _).trans (progress_left s newest hfailed)
      | closed =>
          have heq := settle_left { s with listening := false } hfailed
          exact (Nat.zero_add _).trans (congrArg Lifecycle.left heq)
      | tick =>
          have hp := sound.counting hready
          obtain ⟨k, hk⟩ := sound.account.countdown_of_rebooting hp
          rcases Nat.eq_zero_or_pos k with rfl | hpos
          · rw [UpdateLoop.take_tick_last hp hk]
            simp [Stimulus.isTick, Turn.lifecycle, Lifecycle.left, hp, hk]
          · rw [UpdateLoop.take_tick_of_pos hp hk hpos] at hfailed ⊢
            have hleft : (s.countedDown k).settle.2.lifecycle.left = k := by
              rw [settle_left (s.countedDown k) hfailed]
              simp [Lifecycle.left, UpdateLoop.countedDown, hp]
            dsimp only
            rw [hleft]
            simp [Stimulus.isTick, Lifecycle.left, hp, hk, Nat.add_comm]

/-- An answer leaves the whole countdown ahead, unless the update fails. -/
theorem answer_left {s : UpdateLoop Failure} {upload : UploadRequest}
    {answers : List (Except Failure UpdateReport)} {events : List UpdateEvent}
    (h : Turn.Sound upload answers events (.query s)) (a : Except Failure UpdateReport)
    (hfailed : (s.answer a).2.lifecycle.phase ≠ .failed) :
    (s.answer a).2.lifecycle.left = s.lifecycle.left := by
  cases h with
  | query _ _ polling =>
      cases a with
      | error e => exact congrArg Lifecycle.left (settle_left s hfailed)
      | ok report =>
          have heq := settle_left { s with lifecycle := (s.lifecycle.report report).2 } hfailed
          have hphase := Lifecycle.report_phase polling report
          have hleft : (s.answer (.ok report)).2.lifecycle = (s.lifecycle.report report).2 := heq
          rw [hleft] at hfailed ⊢
          simp only [Lifecycle.report, polling, ne_eq, not_true_eq_false, if_false] at hfailed ⊢
          cases hv : report.verdict <;> simp [Lifecycle.left, polling, hv] at hfailed ⊢

/-- **A move takes a step off the countdown just when it is one**, as long as the update does not
fail. -/
theorem Sound.left_of_move (hr : r.Sound) (h : r.move? period m = some r')
    (hfailed : r'.phase ≠ .failed) :
    (if m.isTick then 1 else 0) + r'.turn.lifecycle.left = r.turn.lifecycle.left := by
  rcases move_cases h with ⟨hback, -⟩ | ⟨s, x, hturn, hx, hready, rfl⟩ | ⟨s, a, hturn, rfl, rfl⟩
  · rw [(background_frame hback).1]
    cases m with
    | tick => cases hback
    | wait _ | report | finish _ | look | close | answer _ => simp [UpdateMove.isTick]
  · have hleft := take_left (hr.turn_of hturn) hready hfailed
    rw [hturn]
    obtain ⟨_, rfl, rfl⟩ | ⟨_, rfl, rfl, -⟩ | ⟨rfl, rfl, -⟩ | ⟨_, rfl, rfl, -⟩ :=
      stimulus_cases hx <;> exact hleft
  · rw [hturn]
    exact (Nat.zero_add _).trans (answer_left (hr.turn_of hturn) a hfailed)

/-- An update that has failed stays so. -/
theorem Sound.failed_of_run (hr : r.Sound) (hfailed : r.phase = .failed)
    (h : r.run period moves = some r') : r'.phase = .failed :=
  (run_induction (P := fun x => x.Sound ∧ x.phase = .failed)
    (fun hx hmove => ⟨hx.1.move hmove, (hx.1.next hmove).phase.of_failed hx.2⟩) h ⟨hr, hfailed⟩).2

/-- **The steps of the countdown that a run takes** are those by which it gets shorter. -/
theorem Sound.ticks_of_run (hr : r.Sound) (h : r.run period moves = some r')
    (hfailed : r'.phase ≠ .failed) :
    moves.countP (·.isTick) + r'.turn.lifecycle.left = r.turn.lifecycle.left := by
  induction moves generalizing r with
  | nil =>
      obtain rfl := Option.some.inj h
      simp
  | cons m moves ih =>
      obtain ⟨r₁, hmove, hrun⟩ := Option.bind_eq_some_iff.mp h
      have hr₁ := hr.move hmove
      have hfailed₁ : r₁.phase ≠ .failed := fun hp => hfailed (hr₁.failed_of_run hp hrun)
      rw [List.countP_cons, ← hr.left_of_move hmove hfailed₁, ← ih hr₁ hrun]
      omega

/-! ### Abandoned requests -/

/-- The device reboots, and so many steps of the countdown are left. -/
def CountsDown (r : UpdateRun) (k : Nat) : Prop :=
  ∃ s, r.turn = .select s ∧ s.lifecycle.phase = .rebooting ∧ s.lifecycle.countdown = some k ∧
    s.counting = true ∧ r.due.isSome = true

/-- The next step of the countdown may be taken before anything else happens. -/
theorem CountsDown.exists_tick {k : Nat} (period : Nat) (h : r.CountsDown (k + 1)) :
    ∃ moves r', r.run period moves = some r' ∧ (∀ m ∈ moves, m.isWait ∨ m.isTick) ∧
      r'.upload = r.upload ∧
      ((k = 0 ∧ ∃ l', r'.turn = .finished l' (.ok .succeeded)) ∨ (0 < k ∧ r'.CountsDown k)) := by
  obtain ⟨s, hturn, hp, hk, hcount, hdue⟩ := h
  obtain ⟨d, hdue⟩ := Option.isSome_iff_exists.mp hdue
  have hle : d ≤ r.now + (d - r.now) := by omega
  have hrun : r.run period [.wait (d - r.now), .tick] =
      some (proceed period { r with now := r.now + (d - r.now), due := some (d + period) }
        (s.take .tick)) := by
    simp [run, move?, hturn, stimulus?, background?, hdue, UpdateLoop.isReady, hcount, hle, consume]
  have hkind : ∀ m ∈ [.wait (d - r.now), .tick], UpdateMove.isWait m ∨ UpdateMove.isTick m := by
    simp [UpdateMove.isWait, UpdateMove.isTick]
  rcases Nat.eq_zero_or_pos k with rfl | hpos
  · rw [UpdateLoop.take_tick_last hp hk] at hrun
    exact ⟨_, _, hrun, hkind, rfl, .inl ⟨rfl, _, rfl⟩⟩
  · have hsettle : (s.countedDown k).settle =
        ([], .select { s.countedDown k with counting := true }) := by
      simp [UpdateLoop.settle, UpdateLoop.countedDown, hcount]
    rw [UpdateLoop.take_tick_of_pos hp hk hpos, hsettle] at hrun
    exact ⟨_, _, hrun, hkind, rfl, .inr ⟨hpos, _, rfl, hp, rfl, rfl, rfl⟩⟩

/-- **The whole countdown may run out before anything else happens.** -/
theorem CountsDown.exists_reload {k : Nat} (period : Nat) (h : r.CountsDown (k + 1)) :
    ∃ moves r' l', r.run period moves = some r' ∧ (∀ m ∈ moves, m.isWait ∨ m.isTick) ∧
      r'.turn = .finished l' (.ok .succeeded) ∧ r'.upload = r.upload := by
  induction k generalizing r with
  | zero =>
      obtain ⟨moves, r', hrun, hkind, hupload, ⟨-, l', hover⟩ | ⟨hpos, -⟩⟩ := h.exists_tick period
      · exact ⟨moves, r', l', hrun, hkind, hover, hupload⟩
      · cases hpos
  | succ k ih =>
      obtain ⟨moves, r₁, hrun, hkind, hupload, ⟨hk, -⟩ | ⟨-, hcounts⟩⟩ := h.exists_tick period
      · cases hk
      · obtain ⟨more, r', l', hmore, hkinds, hover, hkept⟩ := ih hcounts
        exact ⟨moves ++ more, r', l', by rw [run_append, hrun, Option.bind_some, hmore],
          List.forall_mem_append.mpr ⟨hkind, hkinds⟩, hover, hkept.trans hupload⟩

/-- The countdown goes on when the upload request ends. -/
theorem CountsDown.exists_finish {k : Nat} {s : UpdateLoop Failure} (period : Nat)
    (h : r.CountsDown k) (hturn : r.turn = .select s) (hended : s.ended = false)
    (outcome : Except Failure Unit) :
    ∃ r', r.move? period (.finish outcome) = some r' ∧ r'.CountsDown k ∧
      r'.upload = .ended outcome := by
  obtain ⟨s', hs', hp, hk, hcount, hdue⟩ := h
  obtain rfl : s = s' := by simpa [hturn] using hs'
  have htake : s.take (.uploadEnded outcome) = ([], .select (s.afterUpload outcome)) := by
    rw [UpdateLoop.take_uploadEnded]
    rcases (s.afterUpload outcome).progress_cases s.wholeImage with ⟨hawaits, -, -⟩ | ⟨-, heq⟩
    · simp [UpdateLoop.afterUpload, hp, UpdatePhase.awaitsVerdict] at hawaits
    · rw [heq]
      simp [UpdateLoop.settle, UpdateLoop.afterUpload, hcount]
  have hmove : r.move? period (.finish outcome) = some (proceed period
      { r with upload := .ended outcome } ([], .select (s.afterUpload outcome))) := by
    simp [move?, hturn, stimulus?, UpdateLoop.isReady, hended, htake, consume]
  have htimed : (proceed period { r with upload := .ended outcome }
      ([], .select (s.afterUpload outcome))).due.isSome = true := (proceed_timed _ _).trans hcount
  exact ⟨_, hmove, ⟨_, rfl, hp, hk, hcount, htimed⟩, rfl⟩

/-- The answer `complete` begins the countdown. -/
theorem answer_complete {s : UpdateLoop Failure} (hp : s.lifecycle.phase = .polling)
    (firmware : FirmwareMeta) :
    s.answer (.ok ⟨.complete, firmware⟩) = ([.firmwareInfo firmware], .select { s with
      lifecycle := { s.lifecycle with
        phase := .rebooting, countdown := some s.lifecycle.start, firmware := some firmware }
      counting := true }) := by
  simp [UpdateLoop.answer, Lifecycle.report, hp, UpdateLoop.settle]

/-- Progress of a known size makes the client ask while a verdict is awaited. -/
theorem exists_query {s : UpdateLoop Failure} {p : UploadProgress} (period : Nat)
    (hturn : r.turn = .select s) (hawaits : s.lifecycle.phase.awaitsVerdict = true)
    (hnewest : r.unread.getLast? = some p) (htotal : p.total ≠ none)
    (hlisten : s.listening = true) :
    ∃ r', r.move? period .look = some r' ∧ r'.upload = r.upload ∧
      r'.turn = .query { s with lifecycle := { s.lifecycle with phase := .polling } } := by
  have hprogress : s.progress p =
      ([], .query { s with lifecycle := { s.lifecycle with phase := .polling } }) := by
    rcases s.progress_cases p with ⟨-, -, heq⟩ | ⟨hno | hno, -⟩
    · exact heq
    · simp [hawaits] at hno
    · exact absurd hno htotal
  have hlook : r.move? period .look =
      some (proceed period { r with unread := [] } (s.progress p)) := by
    simp [move?, hturn, stimulus?, hnewest, UpdateLoop.isReady, hlisten, UpdateLoop.take, consume]
  rw [hprogress] at hlook
  exact ⟨_, hlook, rfl, rfl⟩

/-- The end of the upload request makes the client ask while a verdict is awaited. -/
theorem exists_lastQuery {s : UpdateLoop Failure} (period : Nat) (hturn : r.turn = .select s)
    (hawaits : s.lifecycle.phase.awaitsVerdict = true) (hended : s.ended = false)
    (outcome : Except Failure Unit) :
    ∃ r', r.move? period (.finish outcome) = some r' ∧ r'.upload = .ended outcome ∧
      r'.turn = .query { s.afterUpload outcome with
        lifecycle := { s.lifecycle with phase := .polling } } := by
  have htake : s.take (.uploadEnded outcome) = ([], .query { s.afterUpload outcome with
      lifecycle := { s.lifecycle with phase := .polling } }) := by
    rw [UpdateLoop.take_uploadEnded]
    rcases (s.afterUpload outcome).progress_cases s.wholeImage with ⟨-, -, heq⟩ | ⟨hno | hno, -⟩
    · exact heq
    · simp [UpdateLoop.afterUpload, hawaits] at hno
    · cases hno
  have hmove : r.move? period (.finish outcome) = some (proceed period
      { r with upload := .ended outcome } (s.take (.uploadEnded outcome))) := by
    simp [move?, hturn, stimulus?, UpdateLoop.isReady, hended, consume]
  rw [htake] at hmove
  exact ⟨_, hmove, rfl, rfl⟩

/-- The query may be answered with the verdict `complete`. -/
theorem exists_verdict {s : UpdateLoop Failure} (period : Nat) (hturn : r.turn = .query s)
    (hp : s.lifecycle.phase = .polling) (firmware : FirmwareMeta) :
    ∃ r', r.move? period (.answer (.ok ⟨.complete, firmware⟩)) = some r' ∧
      r'.CountsDown s.lifecycle.start ∧ r'.upload = r.upload ∧
      ∃ s', r'.turn = .select s' ∧ s'.ended = s.ended := by
  have hmove : r.move? period (.answer (.ok ⟨.complete, firmware⟩)) = some (proceed period
      (consume period r (.answer (.ok ⟨.complete, firmware⟩)))
      (s.answer (.ok ⟨.complete, firmware⟩))) := by
    simp [move?, hturn]
  rw [answer_complete hp] at hmove
  exact ⟨_, hmove, ⟨_, rfl, rfl, rfl, rfl, proceed_timed _ _⟩, rfl, _, rfl, rfl⟩

/-- Progress of a known size may be answered with the verdict `complete` while the upload is still
in flight. -/
theorem exists_countsDown (period now : Nat) (image : FirmwareImage) {p : UploadProgress}
    (hidle : l.phase = .idle) (hp : p ∈ coming) (htotal : p.total ≠ none) :
    ∃ moves r, (start now l [image] coming).run period moves = some r ∧ r.CountsDown l.start ∧
      r.upload = .inFlight := by
  obtain ⟨before, after, rfl⟩ := List.append_of_mem hp
  rw [start_of_idle hidle]
  have hreports := run_reports period (before ++ [p]) after
    (r := ⟨now, .select (.begin l.submitted image), before ++ p :: after, [], none, .inFlight, [],
      [.uploading]⟩) rfl (by simp)
  obtain ⟨r₁, hlook, hflight, hquery⟩ := exists_query (s := .begin l.submitted image)
    (r := ⟨now, .select (.begin l.submitted image), after, before ++ [p], none, .inFlight, [],
      [.uploading]⟩) period rfl rfl (by simp) htotal rfl
  obtain ⟨r₂, hanswer, hcounts, hupload, -⟩ := exists_verdict period hquery rfl ⟨"", ""⟩
  refine ⟨(before ++ [p]).map (fun _ => .report) ++ [.look, .answer (.ok ⟨.complete, "", ""⟩)], r₂,
    ?_, hcounts, hupload.trans hflight⟩
  rw [run_append, hreports, Option.bind_some]
  exact (run_cons hlook _).trans (by rw [run_singleton, hanswer])

/-- As long as no progress of a known size has been seen, the device is asked only when the upload
request has ended. -/
def AsksLate (r : UpdateRun) : Prop :=
  r.upload.isEnded = true ∨
    (r.phase = .uploading ∧ (∀ p ∈ r.coming, p.total = none) ∧ ∀ p ∈ r.unread, p.total = none)

/-- A run in which the device is asked late stays one after every move. -/
theorem AsksLate.move (hr : r.Sound) (hlate : r.AsksLate) (h : r.move? period m = some r') :
    r'.AsksLate := by
  cases hended : r.upload.isEnded with
  | true => exact .inl (isEnded_of_move h hended)
  | false =>
      obtain ⟨hphase, hcoming, hunread⟩ := hlate.resolve_left (by simp [hended])
      rcases move_cases h with ⟨hback, -⟩ | ⟨s, x, hturn, hx, hready, rfl⟩ | ⟨s, a, hturn, rfl, rfl⟩
      · obtain ⟨_, rfl, rfl⟩ | ⟨p, rest, rfl, hc, rfl⟩ := background_cases hback
        · exact .inr ⟨hphase, hcoming, hunread⟩
        · rw [hc] at hcoming
          refine .inr ⟨hphase, fun q hq => hcoming q (List.mem_cons_of_mem _ hq), ?_⟩
          simpa [or_imp, forall_and] using ⟨hunread, hcoming p List.mem_cons_self⟩
      · have hup : s.lifecycle.phase = .uploading := by rwa [phase, hturn] at hphase
        cases hr.turn_of hturn with
        | select _ sound =>
            have hrunning : s.ended = false := sound.ended.trans hended
            have hkept (s' : UpdateLoop Failure) (hend : s'.ended = false)
                (hp : s'.lifecycle.phase = .uploading) :
                s'.settle.2.lifecycle.phase = .uploading := by
              rcases s'.settle_lifecycle with heq | ⟨hno, -⟩
              · rw [heq, hp]
              · simp [hend] at hno
            obtain ⟨_, rfl, -⟩ | ⟨newest, rfl, rfl, hnewest⟩ | ⟨rfl, rfl, -⟩ | ⟨_, -, rfl, -⟩ :=
              stimulus_cases hx
            · exact .inl rfl
            · have htotal := hunread newest (List.mem_of_getLast? hnewest)
              have heq : s.take (.progress newest) = s.settle := by
                rcases s.progress_cases newest with ⟨-, hno, -⟩ | ⟨-, heq⟩
                · exact absurd htotal hno
                · exact heq
              rw [heq]
              exact .inr ⟨hkept s hrunning hup, hcoming, by simp [proceed, consume]⟩
            · exact .inr ⟨hkept { s with listening := false } hrunning hup, hcoming, hunread⟩
            · rw [sound.counting hready] at hup
              cases hup
      · have hup : s.lifecycle.phase = .uploading := by rwa [phase, hturn] at hphase
        rw [(hr.undecided_of_query hturn).1] at hup
        cases hup

/-! ### The requests that succeed -/

/-- A run that is not over and has not failed has some of its countdown ahead. -/
theorem Sound.left_pos (hr : r.Sound) (hover : ¬ r.IsOver) (hfailed : r.phase ≠ .failed) :
    0 < r.turn.lifecycle.left := by
  have hleft {s : UpdateLoop Failure} (sound : s.Sound r.upload r.answers r.events)
      (hp : s.lifecycle.phase ≠ .failed) : 0 < s.lifecycle.left := by
    rcases sound.phase_cases with hs | hs | hs | hs
    · simpa [Lifecycle.left, hs] using s.lifecycle.start_pos
    · simpa [Lifecycle.left, hs] using s.lifecycle.start_pos
    · obtain ⟨k, hk⟩ := sound.account.countdown_of_rebooting hs
      simp [Lifecycle.left, hs, hk]
    · exact absurd hs hp
  rw [phase] at hfailed
  cases hturn : r.turn with
  | finished l result => exact absurd ⟨l, result, hturn⟩ hover
  | select s =>
      rw [hturn] at hfailed
      cases hr.turn_of hturn with
      | select _ sound => exact hleft sound hfailed
  | query s =>
      rw [hturn] at hfailed
      cases hr.turn_of hturn with
      | query _ sound => exact hleft sound hfailed

/-- A run that succeeds ends in the phase `succeeded`. -/
theorem Sound.phase_of_succeeded {l' : Lifecycle} (hr : r.Sound)
    (hturn : r.turn = .finished l' (.ok .succeeded)) : r.phase = .succeeded := by
  rw [phase, hturn]
  cases (hr.outcome hturn).2 with
  | succeeded phase => exact phase

/-- A run that is over without success has not abandoned its request. -/
theorem Sound.isEnded_of_ne_succeeded {l' : Lifecycle} {result : Except Failure UpdatePhase}
    (hr : r.Sound) (hturn : r.turn = .finished l' result) (hresult : result ≠ .ok .succeeded) :
    r.upload.isEnded = true := by
  cases (hr.outcome hturn).2 with
  | succeeded => exact absurd rfl hresult
  | rejected _ _ ended => exact ended
  | undecided _ _ ended | brokenOff _ _ _ _ ended =>
      rw [ended]
      rfl

/-- An update that succeeds has taken the whole countdown. -/
theorem ticks_of_succeeded {image : FirmwareImage} {l' : Lifecycle} (hidle : l.phase = .idle)
    (h : (start now l [image] coming).run period moves = some r)
    (hturn : r.turn = .finished l' (.ok .succeeded)) : moves.countP (·.isTick) = l.start := by
  have hstart := sound_start now image coming hidle
  have hp := (hstart.run h).phase_of_succeeded hturn
  have hticks := hstart.ticks_of_run h (by simp [hp])
  have hleft : r.turn.lifecycle.left = 0 := by
    simp [Lifecycle.left, show r.turn.lifecycle.phase = .succeeded from hp]
  rw [hleft, start_of_idle hidle] at hticks
  exact hticks

/-- The end of the request is taken before the last step of the countdown, or never. -/
theorem ticks_of_finish {image : FirmwareImage} {l' : Lifecycle} {before after : List UpdateMove}
    {outcome : Except Failure Unit} (hidle : l.phase = .idle)
    (h : (start now l [image] coming).run period (before ++ .finish outcome :: after) = some r)
    (hturn : r.turn = .finished l' (.ok .succeeded)) : before.countP (·.isTick) < l.start := by
  have hstart := sound_start now image coming hidle
  have hp := (hstart.run h).phase_of_succeeded hturn
  rw [run_append] at h
  obtain ⟨r₀, hbefore, hrest⟩ := Option.bind_eq_some_iff.mp h
  have hr₀ := hstart.run hbefore
  have hfailed : r₀.phase ≠ .failed := by
    intro hfailed
    have := hr₀.failed_of_run hfailed hrest
    simp [hp] at this
  have hover : ¬ r₀.IsOver := by
    intro hover
    have := (eq_nil_of_run_of_isOver hover hrest).1
    simp at this
  have hticks := hstart.ticks_of_run hbefore hfailed
  have hpos := hr₀.left_pos hover hfailed
  rw [start_of_idle hidle] at hticks
  change _ = l.start at hticks
  omega

/-- **Which updates leave their upload in flight.** Only an update that succeeds may do so: the
last step of its countdown ends it, and the upload request has ended by then just when its end has
been taken up before. Some order of stimuli leaves the request behind as soon as the upload reports
progress of a known size, because the device is then asked while the upload goes on. -/
theorem upload_ended_iff {c : Nat} {image : FirmwareImage} (hcount : l.start = max c 1)
    (hidle : l.phase = .idle) :
    (∀ moves r l' result, (start now l [image] coming).run period moves = some r →
      r.turn = .finished l' result →
        (result ≠ .ok .succeeded → r.upload.isEnded = true) ∧
        (result = .ok .succeeded → moves.countP (·.isTick) = max c 1 ∧
          (r.upload.isEnded = true ↔ ∃ before outcome after,
            moves = before ++ .finish outcome :: after ∧ before.countP (·.isTick) < max c 1))) ∧
    ((∀ moves r l', (start now l [image] coming).run period moves = some r →
        r.turn = .finished l' (.ok .succeeded) → r.upload.isEnded = true) ↔
      ∀ p ∈ coming, p.total = none) := by
  have hstart := sound_start now image coming hidle
  have hsent : (start now l [image] coming).upload = .inFlight := by rw [start_of_idle hidle]
  refine ⟨fun moves r l' result h hturn => ⟨(hstart.run h).isEnded_of_ne_succeeded hturn, ?_⟩, ?_⟩
  · rintro rfl
    rw [← hcount]
    refine ⟨ticks_of_succeeded hidle h hturn, (isEnded_iff_of_run hsent h).trans ⟨?_, ?_⟩⟩
    · rintro ⟨before, outcome, after, rfl⟩
      exact ⟨before, outcome, after, rfl, ticks_of_finish hidle h hturn⟩
    · rintro ⟨before, outcome, after, hmoves, -⟩
      exact ⟨before, outcome, after, hmoves⟩
  · constructor
    · intro hall p hp
      by_contra htotal
      obtain ⟨moves, r, hrun, hcounts, hflight⟩ := exists_countsDown period now image hidle
        hp htotal
      rw [← Nat.sub_add_cancel l.start_pos] at hcounts
      obtain ⟨more, r', l', hmore, -, hturn, hupload⟩ := hcounts.exists_reload period
      have hended := hall (moves ++ more) r' l'
        (by rw [run_append, hrun, Option.bind_some, hmore]) hturn
      rw [hupload, hflight] at hended
      cases hended
    · intro hunknown moves r l' h hturn
      have hlate : (start now l [image] coming).AsksLate := by
        rw [start_of_idle hidle]
        exact .inr ⟨rfl, hunknown, by simp⟩
      have hkept := run_induction (P := fun x => x.Sound ∧ x.AsksLate)
        (fun hx hmove => ⟨hx.1.move hmove, hx.2.move hx.1 hmove⟩) h ⟨hstart, hlate⟩
      refine hkept.2.resolve_right ?_
      intro huploading
      rw [hkept.1.phase_of_succeeded hturn] at huploading
      cases huploading.1

/-- Progress of unknown size leaves no request behind. -/
theorem upload_ended_of_unknown : (Lifecycle.new 0).start = max 0 1 ∧
    (Lifecycle.new 0).phase = .idle ∧ ∀ moves r l',
      (start 0 (.new 0) [⟨"fw.bin", [0x01, 0x02]⟩] [⟨1, none⟩, ⟨2, none⟩]).run 10 moves = some r →
        r.turn = .finished l' (.ok .succeeded) → r.upload.isEnded = true := by
  refine ⟨rfl, rfl, ?_⟩
  intro moves r l' h hturn
  exact (upload_ended_iff (c := 0) rfl rfl).2.2 (by simp) moves r l' h hturn

/-- Half of the image has been sent when the device says that it has it all, and the countdown is
over before the other half is. -/
theorem upload_abandoned : ∃ r l',
    (start 0 (.new 1) [⟨"fw.bin", [0x01, 0x02]⟩] [⟨1, some 2⟩, ⟨2, some 2⟩]).run 10
      [.wait 5, .report, .look, .answer (.ok ⟨.complete, "Jan 1", "00:00"⟩), .wait 10, .tick] =
        some r ∧
    r.turn = .finished l' (.ok .succeeded) ∧ .reload ∈ r.events ∧ r.coming = [⟨2, some 2⟩] ∧
    r.upload.isEnded = false :=
  ⟨_, _, rfl, rfl, by decide, rfl, rfl⟩

end UpdateRun

end FanControl
