import FanControl.Proofs.Firmware.UpdateRun

/-!
# What becomes of a firmware update

The two main facts about a whole run, for every device and every order in which stimuli are taken.
`run_outcome` says what an update results in: a refusal before anything is sent, or what the first
verdict decides, or, without a verdict, what the upload request came to. `run_trace` says what it
shows on the way.

Both are read off from the soundness of the run that has ended.
-/

namespace FanControl

namespace UpdateRun

variable {period now : Nat} {l : Lifecycle} {coming : List UploadProgress}
  {moves : List UpdateMove} {r : UpdateRun}

/-! ### Before the first move -/

/-- An update that is refused is over before anything is sent. -/
theorem start_of_refused {files : List FirmwareImage}
    (h : ¬ (l.phase = .idle ∧ files.length = 1)) :
    start now l files coming =
      ⟨now, .finished l (.error (.input
        (if l.phase = .idle then .noFileSelected else .updateInProgress))),
        coming, [], none, .unsent, [], []⟩ := by
  by_cases hidle : l.phase = .idle
  · have hlength : files.length ≠ 1 := fun hlength => h ⟨hidle, hlength⟩
    match files with
    | [] => simp [start, Lifecycle.submit, hidle]
    | [_] => exact absurd rfl hlength
    | _ :: _ :: _ => simp [start, Lifecycle.submit, hidle]
  · simp [start, Lifecycle.submit, hidle]

/-- An update of one image begins with the countdown that its lifecycle has. -/
theorem start_start {image : FirmwareImage} (hidle : l.phase = .idle) :
    (start now l [image] coming).turn.lifecycle.start = l.start := by
  rw [start_of_idle hidle]
  rfl

/-- The rank of an update of one image is made of its reports and its countdown. -/
theorem rank_start {image : FirmwareImage} (hidle : l.phase = .idle) :
    (start now l [image] coming).rank = 3 * coming.length + l.start + 3 := by
  rw [start_of_idle hidle]
  simp [rank, UpdateLoop.rank, UpdateLoop.begin, Lifecycle.submitted, Lifecycle.left]
  omega

/-! ### Decisive answers -/

/-- Among the answers of a run only the last one can be decisive. -/
theorem Sound.decision?_dropLast {r r' : UpdateRun} (hr : r.Sound)
    (hearly : decision? r.answers.dropLast = none) (h : r.run period moves = some r') :
    decision? r'.answers.dropLast = none := by
  refine (run_induction (P := fun x => x.Sound ∧ decision? x.answers.dropLast = none)
    (fun {x x' m} hx hmove => ⟨hx.1.move hmove, ?_⟩) h ⟨hr, hearly⟩).2
  rcases move_cases hmove with ⟨hback, -⟩ | ⟨s, y, hturn, hy, -, rfl⟩ | ⟨s, a, hturn, rfl, rfl⟩
  · rw [(background_frame hback).2.2.1]
    exact hx.2
  · obtain ⟨_, rfl, -⟩ | ⟨_, rfl, -⟩ | ⟨rfl, -⟩ | ⟨_, rfl, -⟩ := stimulus_cases hy <;> exact hx.2
  · simpa [consume, proceed] using (hx.1.undecided_of_query hturn).2

/-! ### The outcome -/

/-- An update that is over was asked about, and its result is what its first verdict decides, or
else what became of the upload request. -/
theorem result_of_outcome {upload : UploadRequest} {answers : List (Except Failure UpdateReport)}
    {events : List UpdateEvent} {result : Except Failure UpdatePhase}
    (haccount : Account l answers events) (h : Outcome upload answers l result) :
    answers ≠ [] ∧
    (decision? answers = some .complete → result = .ok .succeeded ∧ l.phase = .succeeded) ∧
    (decision? answers = some .failed → result = .ok .failed ∧ l.phase = .failed) ∧
    (decision? answers = none →
      (upload = .ended (.ok ()) ∧ result = .ok .polling ∧ l.phase = .polling) ∨
      ∃ e, upload = .ended (.error e) ∧ result = .error e ∧ l.phase = .failed) := by
  have asked {v : Verdict} (decided : decision? answers = some v) : answers ≠ [] := by
    rintro rfl
    cases decided
  cases h with
  | succeeded phase =>
      have decided := (haccount.decided_of_succeeded phase).1
      simp [decided, phase, asked decided]
  | rejected phase decided _ => simp [decided, phase, asked decided]
  | undecided phase asked ended =>
      simp [(haccount.undecided_of_polling phase).1, phase, asked, ended]
  | brokenOff e phase undecided asked ended => simp [undecided, phase, asked, ended]

/-- **The outcome of an update**, whatever the device does and in whichever order stimuli are
taken. Without exactly one image, or while another update is going on, it is refused: nothing is
sent or shown, and the lifecycle is what it was. Otherwise it ends after a bounded number of
moves. It asks for a verdict at least once, and not again after the first verdict; that verdict
decides, even if the upload request failed, and without one the request does. -/
theorem run_outcome {files : List FirmwareImage}
    (h : (start now l files coming).run period moves = some r) :
    (¬ (l.phase = .idle ∧ files.length = 1) →
      r.turn = .finished l (.error (.input
        (if l.phase = .idle then .noFileSelected else .updateInProgress))) ∧
      moves = [] ∧ r.upload = .unsent ∧ r.answers = [] ∧ r.events = []) ∧
    (l.phase = .idle → files.length = 1 →
      (moves.filter fun m => !m.isWait).length ≤ 3 * coming.length + l.start + 3 ∧
      (∃ more r', r.run period more = some r' ∧ r'.IsOver) ∧
      decision? r.answers.dropLast = none ∧
      (∀ s, r.turn = .query s → decision? r.answers = none) ∧
      ∀ l' result, r.turn = .finished l' result →
        r.answers ≠ [] ∧
        (decision? r.answers = some .complete → result = .ok .succeeded ∧ l'.phase = .succeeded) ∧
        (decision? r.answers = some .failed → result = .ok .failed ∧ l'.phase = .failed) ∧
        (decision? r.answers = none →
          (r.upload = .ended (.ok ()) ∧ result = .ok .polling ∧ l'.phase = .polling) ∨
          ∃ e, r.upload = .ended (.error e) ∧ result = .error e ∧ l'.phase = .failed)) := by
  constructor
  · intro hrefused
    rw [start_of_refused hrefused] at h
    obtain ⟨rfl, rfl⟩ := eq_nil_of_run_of_isOver ⟨_, _, rfl⟩ h
    exact ⟨rfl, rfl, rfl, rfl, rfl⟩
  · intro hidle hone
    obtain ⟨image, rfl⟩ := List.length_eq_one_iff.mp hone
    have hstart := sound_start now image coming hidle
    have hr := hstart.run h
    have hlength := hstart.length_moves h
    rw [rank_start hidle] at hlength
    refine ⟨by omega, hr.exists_over period, hstart.decision?_dropLast ?_ h, ?_, ?_⟩
    · rw [start_of_idle hidle]
      rfl
    · intro s hturn
      exact (hr.undecided_of_query hturn).2
    · intro l' result hturn
      obtain ⟨account, outcome⟩ := hr.outcome hturn
      exact result_of_outcome account outcome

/-- Progress of unknown size, a request that fails, a query that fails, and a verdict that comes
last of all. -/
def lateVerdict : List UpdateMove := [
  .report, .look, .report, .wait 5, .finish (.error (.refused "/OTAupdate" 503)),
  .answer (.error (.unanswered "/OTAstatus")), .look, .answer (.ok ⟨.complete, "Jan 1", "00:00"⟩),
  .close, .wait 1000, .tick, .wait 1000, .tick]

/-- The verdict that comes last decides, although the request failed. -/
theorem run_outcome_lateVerdict : ∃ r l' result,
    (start 0 (.new 2) [⟨"fw.bin", [0x5A]⟩] [⟨0, none⟩, ⟨1, some 1⟩]).run 1000 lateVerdict =
      some r ∧
    r.turn = .finished l' result ∧ r.upload = .ended (.error (.refused "/OTAupdate" 503)) ∧
    decision? r.answers = some .complete ∧ result = .ok .succeeded := by
  have hrun : ((start 0 (.new 2) [⟨"fw.bin", [0x5A]⟩] [⟨0, none⟩, ⟨1, some 1⟩]).run 1000
      lateVerdict).isSome = true := rfl
  obtain ⟨r, hrun⟩ := Option.isSome_iff_exists.mp hrun
  have houtcome := (run_outcome hrun).2 rfl rfl
  cases hrun
  exact ⟨_, _, _, rfl, rfl, rfl, rfl, ((houtcome.2.2.2.2 _ _ rfl).2.1 rfl).1⟩

/-! ### The trace -/

/-- A countdown counts down to one, and the reload comes after it. -/
theorem countdownFrom_eq (n : Nat) :
    countdownFrom n = (List.range n).reverse.map (fun i => .rebooting (i + 1)) ++ [.reload] := by
  induction n with
  | zero => rfl
  | succ n ih => simp [countdownFrom, List.range_succ, ih]

/-- What comes after no event. -/
def IsLast (e : UpdateEvent) : Prop := e = .reload ∨ e = .uploadFailed

/-- The telling of the answers holds no last event. -/
theorem not_isLast_of_mem_told {answers : List (Except Failure UpdateReport)} {e : UpdateEvent}
    (h : e ∈ told answers) : ¬ IsLast e := by
  simp only [told, List.mem_cons, List.mem_map] at h
  rcases h with rfl | ⟨report, -, rfl⟩ <;> simp [IsLast]

/-- An update shows one last event at most. -/
theorem exists_last_of_account {answers : List (Except Failure UpdateReport)}
    {events : List UpdateEvent} (h : Account l answers events) :
    ∃ early late, events = early ++ late ∧ (∀ e ∈ early, ¬ IsLast e) ∧ late.length ≤ 1 := by
  have counts (n : Nat) : ∀ e ∈ told answers ++
      (List.range n).reverse.map (fun i => UpdateEvent.rebooting (i + 1)), ¬ IsLast e := by
    intro e he
    rcases List.mem_append.mp he with he | he
    · exact not_isLast_of_mem_told he
    · obtain ⟨i, -, rfl⟩ := List.mem_map.mp he
      simp [IsLast]
  cases h with
  | uploading _ _ shown | polling _ _ shown =>
      exact ⟨told answers, [], by simpa using shown, fun e => not_isLast_of_mem_told, by simp⟩
  | rebooting k _ _ _ _ shown =>
      rw [countdownFrom_eq, countdownFrom_eq, ← List.append_assoc, ← List.append_assoc] at shown
      have hsplit := List.append_cancel_right shown
      exact ⟨events, [], by simp, fun e he => counts l.start e
        (hsplit ▸ List.mem_append_left _ he), by simp⟩
  | succeeded _ _ shown =>
      rw [countdownFrom_eq, ← List.append_assoc] at shown
      exact ⟨_, [.reload], shown, counts l.start, by simp⟩
  | rejected _ _ shown | brokenOff _ _ shown =>
      exact ⟨told answers, [.uploadFailed], shown, fun e => not_isLast_of_mem_told, by simp⟩

/-- A last event comes last, and once. -/
theorem eq_nil_of_isLast {answers : List (Except Failure UpdateReport)}
    {before after : List UpdateEvent} {e : UpdateEvent}
    (h : Account l answers (before ++ e :: after)) (he : IsLast e) : after = [] ∧ e ∉ before := by
  obtain ⟨early, late, heq, hearly, hlate⟩ := exists_last_of_account h
  rcases List.append_eq_append_iff.mp heq with ⟨middle, hmiddle, htail⟩ | ⟨middle, hmiddle, htail⟩
  · -- The event does not stand in the early part, so the late part begins with it.
    cases middle with
    | nil =>
        subst htail hmiddle
        refine ⟨by simpa using hlate, fun hmem => hearly e (by simpa using hmem) he⟩
    | cons x middle =>
        obtain rfl : e = x := (List.cons.inj htail).1
        exact absurd he (hearly e (by simp [hmiddle]))
  · subst htail hmiddle
    simp only [List.length_append, List.length_cons] at hlate
    obtain rfl : middle = [] := List.length_eq_zero_iff.mp (by omega)
    exact ⟨List.length_eq_zero_iff.mp (by omega),
      fun hmem => hearly e (by simpa using hmem) he⟩

/-- **The trace of an update**, whatever the device does and in whichever order stimuli are taken.
It is the start of the upload, what each answered query says about the firmware, in order, and one
ending: nothing, or the failure, or, after some answer, the whole countdown and the reload. The
reload and the failure come last and once. On the way, `failed` and `rebooting` are only entered
from `polling`. -/
theorem run_trace {c : Nat} {image : FirmwareImage} (hcount : l.start = max c 1)
    (hidle : l.phase = .idle) (h : (start now l [image] coming).run period moves = some r) :
    (∀ l' result, r.turn = .finished l' result → ∃ ending,
      r.events = .uploading ::
        ((answered r.answers).map fun report => .firmwareInfo report.firmware) ++ ending ∧
      ((ending = [] ∧ result = .ok .polling) ∨
        (ending = [.uploadFailed] ∧ (result = .ok .failed ∨ ∃ e, result = .error e)) ∨
        (ending = (List.range (max c 1)).reverse.map (fun i => .rebooting (i + 1)) ++ [.reload] ∧
          answered r.answers ≠ [] ∧ result = .ok .succeeded))) ∧
    (∀ before after, r.events = before ++ .reload :: after → after = [] ∧ .reload ∉ before) ∧
    (∀ before after, r.events = before ++ .uploadFailed :: after → after = []) ∧
    (∀ m r', r.move? period m = some r' →
      (r'.phase = .failed → r.phase = .failed ∨ r.phase = .polling) ∧
      (r'.phase = .rebooting → r.phase = .rebooting ∨ r.phase = .polling)) := by
  have hstart := sound_start now image coming hidle
  have hr := hstart.run h
  have haccount := hr.account
  refine ⟨?_, ?_, ?_, ?_⟩
  · intro l' result hturn
    have hbegin : l'.start = max c 1 := by
      have := hstart.start_of_run h
      rwa [start_start hidle, hturn, hcount] at this
    obtain ⟨account, outcome⟩ := hr.outcome hturn
    cases outcome with
    | succeeded phase =>
        obtain ⟨decided, shown⟩ := account.decided_of_succeeded phase
        rw [countdownFrom_eq, hbegin] at shown
        exact ⟨_, shown, .inr (.inr ⟨rfl, answered_ne_nil_of_decision? decided, rfl⟩)⟩
    | rejected phase =>
        exact ⟨_, account.shown_of_failed phase, .inr (.inl ⟨rfl, .inl rfl⟩)⟩
    | undecided phase =>
        obtain ⟨-, shown⟩ := account.undecided_of_polling phase
        exact ⟨[], by simpa [told] using shown, .inl ⟨rfl, rfl⟩⟩
    | brokenOff e phase =>
        exact ⟨_, account.shown_of_failed phase, .inr (.inl ⟨rfl, .inr ⟨e, rfl⟩⟩)⟩
  · intro before after heq
    rw [heq] at haccount
    exact eq_nil_of_isLast haccount (.inl rfl)
  · intro before after heq
    rw [heq] at haccount
    exact (eq_nil_of_isLast haccount (.inr rfl)).1
  · intro m r' hmove
    have hnext := (hr.next hmove).phase
    exact ⟨hnext.into_failed, hnext.into_rebooting⟩

/-- A query while the upload goes on, its end, and a countdown from three. -/
def threeSteps : List UpdateMove := [
  .report, .look, .answer (.ok ⟨.pending, "Jan 1", "00:00"⟩), .finish (.ok ()),
  .answer (.ok ⟨.complete, "Jan 2", "00:00"⟩), .close, .wait 10, .tick, .wait 10, .tick,
  .wait 10, .tick]

/-- An update with a countdown from three tells of both answers and shows every count. -/
theorem run_trace_threeSteps : ∃ r l' result ending,
    (Lifecycle.new 3).start = max 3 1 ∧ (Lifecycle.new 3).phase = .idle ∧
    (start 0 (.new 3) [⟨"fw.bin", [0x5A]⟩] [⟨1, some 1⟩]).run 10 threeSteps = some r ∧
    r.turn = .finished l' result ∧
    r.events = .uploading ::
      ((answered r.answers).map fun report => .firmwareInfo report.firmware) ++ ending ∧
    ending = [.rebooting 3, .rebooting 2, .rebooting 1, .reload] := by
  have hrun : ((start 0 (.new 3) [⟨"fw.bin", [0x5A]⟩] [⟨1, some 1⟩]).run 10
      threeSteps).isSome = true := rfl
  obtain ⟨r, hrun⟩ := Option.isSome_iff_exists.mp hrun
  have htrace := (run_trace (c := 3) rfl rfl hrun).1
  cases hrun
  obtain ⟨ending, hevents, hending⟩ := htrace _ _ rfl
  refine ⟨_, _, _, ending, rfl, rfl, rfl, rfl, hevents, ?_⟩
  rcases hending with ⟨-, hno⟩ | ⟨-, hno | ⟨e, hno⟩⟩ | ⟨rfl, -, -⟩
  · cases hno
  · cases hno
  · cases hno
  · rfl

end UpdateRun

end FanControl
