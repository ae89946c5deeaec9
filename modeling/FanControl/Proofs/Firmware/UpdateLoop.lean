import FanControl.Proofs.Firmware.Account
import FanControl.Session.UpdateRun
import Mathlib.Tactic.ByContra

/-!
# What the loop of an update keeps

The loop steers its exits by four flags. `UpdateLoop.Sound` ties them to the request that uploads
the image, to the phase of the update and to its account; `Turn.Sound` adds what holds between two
turns, and `Outcome` what holds when the update is over. Each transition of the loop leads from
one sound turn to another, so every run stays sound whatever the order of its stimuli.

## Main results

* `UpdateLoop.Sound.settle`: the end of a turn is sound; here the four outcomes come about;
* `Turn.Sound.take`, `Turn.Sound.answer`: so is every transition.
-/

namespace FanControl

namespace UploadRequest

/-- Whether the request has ended. -/
def isEnded : UploadRequest → Bool
  | ended _ => true
  | unsent | inFlight => false

/-- How the request failed, if it did. -/
def failure? : UploadRequest → Option Failure
  | ended (.error e) => some e
  | _ => none

/-- A request that has ended without a failure was carried out. -/
theorem eq_ended_ok {u : UploadRequest} (hended : u.isEnded = true) (hfailure : u.failure? = none) :
    u = .ended (.ok ()) := by
  match u with
  | ended (.ok ()) => rfl
  | ended (.error e) => cases hfailure

/-- A request that has failed has ended. -/
theorem eq_ended_error {u : UploadRequest} {e : Failure} (h : u.failure? = some e) :
    u = .ended (.error e) := by
  match u with
  | ended (.error _) => cases h; rfl

end UploadRequest

/-! ### What progress calls for -/

/-- Progress of a known size is an occasion for a query as long as a verdict is awaited; any other
progress changes nothing. -/
theorem Lifecycle.progress_cases (l : Lifecycle) (p : UploadProgress) :
    (l.phase.awaitsVerdict = true ∧ p.total ≠ none ∧
      l.progress p = (.query, { l with phase := .polling })) ∨
    ((l.phase.awaitsVerdict = false ∨ p.total = none) ∧
      (l.progress p = (.ignore, l) ∨ l.progress p = (.unknownSize, l))) := by
  cases hawaits : l.phase.awaitsVerdict with
  | false => exact .inr ⟨.inl rfl, .inl (by simp [progress, hawaits])⟩
  | true =>
      by_cases htotal : p.total = none
      · exact .inr ⟨.inr htotal, .inr (by simp [progress, hawaits, htotal])⟩
      · exact .inl ⟨rfl, htotal, by simp [progress, hawaits, htotal]⟩

/-- While polling, a report leads to the phase that its verdict stands for. -/
theorem Lifecycle.report_phase {l : Lifecycle} (hp : l.phase = .polling) (r : UpdateReport) :
    (l.report r).2.phase = match r.verdict with
      | .failed => .failed
      | .pending => .polling
      | .complete => .rebooting := by
  simp only [report, hp, ne_eq, not_true_eq_false, if_false]
  cases r.verdict <;> simp

/-- A report leaves it where the countdown begins. -/
theorem Lifecycle.report_start (l : Lifecycle) (r : UpdateReport) :
    (l.report r).2.start = l.start := by
  rw [report]
  split
  · rfl
  · cases r.verdict <;> rfl

namespace UpdateLoop

/-- The loop queries the device, or the turn is over. -/
theorem progress_cases (s : UpdateLoop Failure) (p : UploadProgress) :
    (s.lifecycle.phase.awaitsVerdict = true ∧ p.total ≠ none ∧
      s.progress p = ([], .query { s with lifecycle := { s.lifecycle with phase := .polling } })) ∨
    ((s.lifecycle.phase.awaitsVerdict = false ∨ p.total = none) ∧ s.progress p = s.settle) := by
  rcases s.lifecycle.progress_cases p with ⟨hawaits, htotal, heq⟩ | ⟨hno, heq | heq⟩
  · exact .inl ⟨hawaits, htotal, by simp [progress, heq]⟩
  · exact .inr ⟨hno, by simp [progress, heq]⟩
  · exact .inr ⟨hno, by simp [progress, heq]⟩

/-- The loop when the upload request has ended. -/
def afterUpload (s : UpdateLoop Failure) (outcome : Except Failure Unit) : UpdateLoop Failure :=
  { s with ended := true, failure := UploadRequest.failure? (.ended outcome) }

/-- The progress that the end of the upload request stands for: the whole image. -/
def wholeImage (s : UpdateLoop Failure) : UploadProgress :=
  ⟨.ofNat s.size, some (.ofNat s.size)⟩

/-- The end of the upload request is progress of the whole image. -/
theorem take_uploadEnded (s : UpdateLoop Failure) (outcome : Except Failure Unit) :
    s.take (.uploadEnded outcome) = (s.afterUpload outcome).progress s.wholeImage := by
  cases outcome <;> rfl

/-- The loop with so much left of its countdown. -/
def countedDown (s : UpdateLoop Failure) (k : Nat) : UpdateLoop Failure :=
  { s with lifecycle := { s.lifecycle with countdown := some k } }

/-- Outside of the phase `rebooting` a step of the countdown changes nothing. -/
theorem take_tick_of_ne_rebooting {s : UpdateLoop Failure} (h : s.lifecycle.phase ≠ .rebooting) :
    s.take .tick = s.settle := by
  simp [take, Lifecycle.tick_of_ne_rebooting h]

/-- The last step of the countdown ends the update, whatever became of the upload request. -/
theorem take_tick_last {s : UpdateLoop Failure} (h : s.lifecycle.phase = .rebooting)
    (hk : s.lifecycle.countdown = some 1) :
    s.take .tick = ([.rebooting 1, .reload], .finished
      { s.lifecycle with phase := .succeeded, countdown := some 0 } (.ok .succeeded)) := by
  simp [take, Lifecycle.tick, h, hk]

/-- A step of the countdown that is not the last one shows the count, and the turn is over. -/
theorem take_tick_of_pos {s : UpdateLoop Failure} {k : Nat} (h : s.lifecycle.phase = .rebooting)
    (hk : s.lifecycle.countdown = some (k + 1)) (hpos : 0 < k) :
    s.take .tick = (.rebooting (k + 1) :: (s.countedDown k).settle.1,
      (s.countedDown k).settle.2) := by
  have hlast : ¬ k + 1 ≤ 1 := by omega
  simp [take, Lifecycle.tick, h, hk, hlast, countedDown]

end UpdateLoop

/-! ### Soundness -/

/-- The flags of a loop agree with the upload request and with the account of the update. -/
structure UpdateLoop.Sound (s : UpdateLoop Failure) (upload : UploadRequest)
    (answers : List (Except Failure UpdateReport)) (events : List UpdateEvent) : Prop where
  account : Account s.lifecycle answers events
  sent : upload ≠ .unsent
  ended : s.ended = upload.isEnded
  failure : s.failure = upload.failure?
  counting : s.counting = true → s.lifecycle.phase = .rebooting
  running : s.lifecycle.phase ≠ .succeeded
  rejected : s.lifecycle.phase = .failed → decision? answers = some .failed

/-- **The four outcomes of an update.** A verdict decides it whatever became of the upload
request; without one the request does. -/
inductive Outcome (upload : UploadRequest) (answers : List (Except Failure UpdateReport))
    (l : Lifecycle) : Except Failure UpdatePhase → Prop
  | succeeded (phase : l.phase = .succeeded) : Outcome upload answers l (.ok .succeeded)
  | rejected (phase : l.phase = .failed) (decided : decision? answers = some .failed)
      (ended : upload.isEnded = true) : Outcome upload answers l (.ok .failed)
  | undecided (phase : l.phase = .polling) (asked : answers ≠ [])
      (ended : upload = .ended (.ok ())) : Outcome upload answers l (.ok .polling)
  | brokenOff (e : Failure) (phase : l.phase = .failed) (undecided : decision? answers = none)
      (asked : answers ≠ []) (ended : upload = .ended (.error e)) :
      Outcome upload answers l (.error e)

/-- What holds between two turns. -/
inductive Turn.Sound (upload : UploadRequest) (answers : List (Except Failure UpdateReport))
    (events : List UpdateEvent) : Turn Failure → Prop
  | select (s : UpdateLoop Failure) (sound : s.Sound upload answers events)
      (asked : s.lifecycle.phase = .polling → answers ≠ [])
      (begun : s.ended = true → s.lifecycle.phase ≠ .uploading)
      (counting : s.lifecycle.phase = .rebooting → s.counting = true)
      (busy : s.ended = true → s.listening = false → s.counting = true) :
      Turn.Sound upload answers events (.select s)
  | query (s : UpdateLoop Failure) (sound : s.Sound upload answers events)
      (polling : s.lifecycle.phase = .polling) : Turn.Sound upload answers events (.query s)
  | finished (l : Lifecycle) (result : Except Failure UpdatePhase)
      (account : Account l answers events) (outcome : Outcome upload answers l result) :
      Turn.Sound upload answers events (.finished l result)

section Transitions

variable {s : UpdateLoop Failure} {upload : UploadRequest}
  {answers : List (Except Failure UpdateReport)} {events : List UpdateEvent}

/-- A running update is uploading, polling, rebooting or rejected. -/
theorem UpdateLoop.Sound.phase_cases (h : s.Sound upload answers events) :
    s.lifecycle.phase = .uploading ∨ s.lifecycle.phase = .polling ∨
      s.lifecycle.phase = .rebooting ∨ s.lifecycle.phase = .failed := by
  cases h.account with
  | uploading phase => exact .inl phase
  | polling phase => exact .inr (.inl phase)
  | rebooting _ phase => exact .inr (.inr (.inl phase))
  | succeeded phase => exact absurd phase h.running
  | rejected phase | brokenOff phase => exact .inr (.inr (.inr phase))

/-- An update that has ended with nothing more to come is concluded soundly. -/
theorem UpdateLoop.Sound.conclude (h : s.Sound upload answers events) (hended : s.ended = true)
    (asked : s.lifecycle.phase = .polling → answers ≠ [])
    (begun : s.lifecycle.phase ≠ .uploading) (hreboots : s.lifecycle.phase ≠ .rebooting) :
    Turn.Sound upload answers (events ++ s.conclude.1) s.conclude.2 := by
  have hupload : upload.isEnded = true := h.ended ▸ hended
  rw [UpdateLoop.conclude]
  rcases h.phase_cases with hp | hp | hp | hp
  · exact absurd hp begun
  · -- No verdict was given, so the outcome is that of the upload request.
    obtain ⟨undecided, -⟩ := h.account.undecided_of_polling hp
    cases hfail : s.failure with
    | none =>
        have hok := UploadRequest.eq_ended_ok hupload (h.failure ▸ hfail)
        simp only [List.append_nil, hp]
        exact .finished _ _ h.account (.undecided hp (asked hp) hok)
    | some e =>
        have herror := UploadRequest.eq_ended_error (h.failure ▸ hfail)
        have hfailed : s.lifecycle.uploadFailed.2.phase = .failed := by
          simp [Lifecycle.uploadFailed, hp, UpdatePhase.awaitsVerdict]
        simp only [hp, UpdatePhase.awaitsVerdict, if_true]
        exact .finished _ _ (h.account.uploadFailed hp)
          (.brokenOff e hfailed undecided (asked hp) herror)
  · exact absurd hp hreboots
  · have hrejected : Outcome upload answers s.lifecycle (.ok .failed) :=
      .rejected hp (h.rejected hp) hupload
    cases hfail : s.failure with
    | none =>
        simp only [List.append_nil, hp]
        exact .finished _ _ h.account hrejected
    | some e =>
        simp only [hp, UpdatePhase.awaitsVerdict, Bool.false_eq_true, if_false, List.append_nil]
        exact .finished _ _ h.account hrejected

/-- **The end of a turn is sound.** The loop is over only when nothing more can happen to it. -/
theorem UpdateLoop.Sound.settle (h : s.Sound upload answers events)
    (asked : s.lifecycle.phase = .polling → answers ≠ [])
    (begun : s.ended = true → s.lifecycle.phase ≠ .uploading) :
    Turn.Sound upload answers (events ++ s.settle.1) s.settle.2 := by
  -- What the end of a turn does to the loop: the countdown runs exactly while rebooting.
  have hcount : (s.counting || s.lifecycle.phase == .rebooting) = true ↔
      s.lifecycle.phase = .rebooting := by
    simpa using h.counting
  have hnext : UpdateLoop.Sound
      { s with counting := s.counting || s.lifecycle.phase == .rebooting } upload answers events :=
    ⟨h.account, h.sent, h.ended, h.failure, hcount.1, h.running, h.rejected⟩
  simp only [UpdateLoop.settle]
  split
  · next hover =>
    simp only [Bool.and_eq_true, Bool.not_eq_true'] at hover
    obtain ⟨⟨hended, -⟩, hidle⟩ := hover
    refine hnext.conclude hended asked (begun hended) ?_
    intro hreboots
    rw [hcount.2 hreboots] at hidle
    cases hidle
  · next hover =>
    rw [List.append_nil]
    refine .select _ hnext asked begun hcount.2 ?_
    intro hended hlisten
    by_contra hidle
    exact hover (by simp_all)

/-- Progress leads to a sound turn, be it reported or concluded from the end of the request. -/
theorem UpdateLoop.Sound.progress (h : s.Sound upload answers events) (p : UploadProgress)
    (asked : s.lifecycle.phase = .polling → answers ≠ [])
    (begun : s.ended = true → s.lifecycle.phase ≠ .uploading ∨ p.total ≠ none) :
    Turn.Sound upload answers (events ++ (s.progress p).1) (s.progress p).2 := by
  rcases s.progress_cases p with ⟨hawaits, htotal, heq⟩ | ⟨hno, heq⟩
  · have haccount : Account { s.lifecycle with phase := .polling } answers events := by
      simpa [Lifecycle.progress, hawaits, htotal] using h.account.progress p
    rw [heq, List.append_nil]
    refine .query _ ⟨haccount, h.sent, h.ended, h.failure, ?_, by simp, by simp⟩ rfl
    intro hc
    simp [h.counting hc, UpdatePhase.awaitsVerdict] at hawaits
  · rw [heq]
    refine h.settle asked ?_
    intro hended hp
    rcases begun hended with hb | hb
    · exact hb hp
    · rcases hno with hn | hn
      · simp [hp, UpdatePhase.awaitsVerdict] at hn
      · exact hb hn

/-- The countdown leads to a sound turn. Only its last step ends the update. -/
theorem UpdateLoop.Sound.tick (h : s.Sound upload answers events)
    (asked : s.lifecycle.phase = .polling → answers ≠ [])
    (begun : s.ended = true → s.lifecycle.phase ≠ .uploading) :
    Turn.Sound upload answers (events ++ (s.take .tick).1) (s.take .tick).2 := by
  have haccount := h.account.tick
  by_cases hp : s.lifecycle.phase = .rebooting
  · obtain ⟨k, hk⟩ := h.account.countdown_of_rebooting hp
    simp only [Lifecycle.tick, hp, hk] at haccount
    rcases Nat.eq_zero_or_pos k with rfl | hpos
    · rw [UpdateLoop.take_tick_last hp hk]
      exact .finished _ _ haccount (.succeeded rfl)
    · have hnext : (s.countedDown k).Sound upload answers (events ++ [.rebooting (k + 1)]) := by
        have hlast : ¬ k + 1 ≤ 1 := by omega
        refine ⟨?_, h.sent, h.ended, h.failure, h.counting, h.running, h.rejected⟩
        simpa [hlast, UpdateLoop.countedDown, hp] using haccount
      rw [UpdateLoop.take_tick_of_pos hp hk hpos]
      simpa using hnext.settle asked begun
  · rw [UpdateLoop.take_tick_of_ne_rebooting hp]
    exact h.settle asked begun

/-- The end of the upload request leads to a sound turn: if no verdict has been given, the device
is asked once more. -/
theorem Turn.Sound.uploadEnded (h : Turn.Sound upload answers events (.select s))
    (outcome : Except Failure Unit) :
    Turn.Sound (.ended outcome) answers (events ++ (s.take (.uploadEnded outcome)).1)
      (s.take (.uploadEnded outcome)).2 := by
  cases h with
  | select _ sound asked =>
      have hsound : (s.afterUpload outcome).Sound (.ended outcome) answers events :=
        ⟨sound.account, by simp, rfl, rfl, sound.counting, sound.running, sound.rejected⟩
      rw [UpdateLoop.take_uploadEnded]
      exact hsound.progress s.wholeImage asked fun _ => .inr (by simp [UpdateLoop.wholeImage])

/-- **Every stimulus leads to a sound turn** besides the end of the request, which changes the
request as well. -/
theorem Turn.Sound.take (h : Turn.Sound upload answers events (.select s)) {x : Stimulus Failure}
    (hx : ∀ outcome, x ≠ .uploadEnded outcome) :
    Turn.Sound upload answers (events ++ (s.take x).1) (s.take x).2 := by
  cases h with
  | select _ sound asked begun =>
      cases x with
      | uploadEnded outcome => exact absurd rfl (hx outcome)
      | progress newest => exact sound.progress newest asked fun hended => .inl (begun hended)
      | closed =>
          have hsound : UpdateLoop.Sound { s with listening := false } upload answers events :=
            ⟨sound.account, sound.sent, sound.ended, sound.failure, sound.counting,
              sound.running, sound.rejected⟩
          exact hsound.settle asked begun
      | tick => exact sound.tick asked begun

/-- **An answer leads to a sound turn**, and so does a query that failed. -/
theorem Turn.Sound.answer (h : Turn.Sound upload answers events (.query s))
    (a : Except Failure UpdateReport) :
    Turn.Sound upload (answers ++ [a]) (events ++ (s.answer a).1) (s.answer a).2 := by
  cases h with
  | query _ sound polling =>
      cases a with
      | error e =>
          have hmiss : s.Sound upload (answers ++ [.error e]) events :=
            ⟨sound.account.miss polling e, sound.sent, sound.ended, sound.failure,
              sound.counting, sound.running, by simp [polling]⟩
          exact hmiss.settle (by simp) (by simp [polling])
      | ok r =>
          have hphase := Lifecycle.report_phase polling r
          have hreport : UpdateLoop.Sound { s with lifecycle := (s.lifecycle.report r).2 } upload
              (answers ++ [.ok r]) (events ++ (s.lifecycle.report r).1) := by
            refine ⟨sound.account.report polling r, sound.sent, sound.ended, sound.failure,
              ?_, ?_, ?_⟩
            · intro hc
              exact absurd (sound.counting hc) (by simp [polling])
            · cases hv : r.verdict <;> simp [hphase, hv]
            · intro hfailed
              obtain ⟨undecided, -⟩ := sound.account.undecided_of_polling polling
              rw [decision?_append, undecided, Option.none_or, decision?_ok]
              cases hv : r.verdict <;> simp [hphase, hv] at hfailed ⊢
          have hturn := hreport.settle (by simp) fun _ => by
            cases hv : r.verdict <;> simp [hphase, hv]
          simpa [UpdateLoop.answer] using hturn

/-! ### The order of phases -/

/-- **The order of phases.** A step keeps the phase or goes on to the next one; `polling` is the
only way to `failed` and to `rebooting`. -/
inductive UpdatePhase.Follows : UpdatePhase → UpdatePhase → Prop
  | same (p : UpdatePhase) : Follows p p
  | polled : Follows .uploading .polling
  | rejected : Follows .polling .failed
  | flashed : Follows .polling .rebooting
  | reloaded : Follows .rebooting .succeeded

/-- An update that fails does so while polling. -/
theorem UpdatePhase.Follows.into_failed {p q : UpdatePhase} (h : p.Follows q) (hq : q = .failed) :
    p = .failed ∨ p = .polling := by
  cases h <;> simp_all

/-- An update that begins to reboot does so while polling. -/
theorem UpdatePhase.Follows.into_rebooting {p q : UpdatePhase} (h : p.Follows q)
    (hq : q = .rebooting) : p = .rebooting ∨ p = .polling := by
  cases h <;> simp_all

/-- An update that has failed stays so. -/
theorem UpdatePhase.Follows.of_failed {p q : UpdatePhase} (h : p.Follows q) (hp : p = .failed) :
    q = .failed := by
  cases h <;> simp_all

/-- One step of an update: the phases stay in order, and the countdown keeps where it begins. -/
structure Lifecycle.Next (l l' : Lifecycle) : Prop where
  phase : l.phase.Follows l'.phase
  start : l'.start = l.start

/-- A step may leave an update as it is. -/
theorem Lifecycle.Next.refl (l : Lifecycle) : l.Next l := ⟨.same _, rfl⟩

/-- The end of a turn leaves the update as it is, unless the upload has ended without a verdict. -/
theorem UpdateLoop.settle_lifecycle (s : UpdateLoop Failure) :
    s.settle.2.lifecycle = s.lifecycle ∨
      (s.ended = true ∧ s.lifecycle.phase.awaitsVerdict = true ∧
        s.settle.2.lifecycle = { s.lifecycle with phase := .failed }) := by
  simp only [UpdateLoop.settle, UpdateLoop.conclude]
  split
  · next hover =>
    simp only [Bool.and_eq_true] at hover
    split
    · cases hawaits : s.lifecycle.phase.awaitsVerdict with
      | true =>
          refine .inr ⟨hover.1.1, rfl, ?_⟩
          simp [Turn.lifecycle, Lifecycle.uploadFailed, hawaits]
      | false => exact .inl rfl
    · exact .inl rfl
  · exact .inl rfl

/-- The end of a turn is one step at most. -/
theorem UpdateLoop.settle_next (s : UpdateLoop Failure)
    (begun : s.ended = true → s.lifecycle.phase ≠ .uploading) :
    s.lifecycle.Next s.settle.2.lifecycle := by
  rcases s.settle_lifecycle with heq | ⟨hended, hawaits, heq⟩
  · rw [heq]
    exact .refl _
  · have hp : s.lifecycle.phase = .polling := by
      have := begun hended
      cases hphase : s.lifecycle.phase <;> simp_all [UpdatePhase.awaitsVerdict]
    rw [heq]
    exact ⟨hp ▸ .rejected, rfl⟩

/-- Progress is one step at most. -/
theorem UpdateLoop.progress_next (s : UpdateLoop Failure) (p : UploadProgress)
    (begun : s.ended = true → s.lifecycle.phase ≠ .uploading ∨ p.total ≠ none) :
    s.lifecycle.Next (s.progress p).2.lifecycle := by
  rcases s.progress_cases p with ⟨hawaits, -, heq⟩ | ⟨hno, heq⟩
  · rw [heq]
    refine ⟨?_, rfl⟩
    cases hp : s.lifecycle.phase with
    | uploading => exact .polled
    | polling => exact .same _
    | idle | rebooting | succeeded | failed => simp [hp, UpdatePhase.awaitsVerdict] at hawaits
  · rw [heq]
    refine s.settle_next ?_
    intro hended hp
    rcases begun hended, hno with ⟨hb | hb, hn | hn⟩
    · exact hb hp
    · exact hb hp
    · simp [hp, UpdatePhase.awaitsVerdict] at hn
    · exact hb hn

/-- **A stimulus is one step at most.** -/
theorem Turn.Sound.take_next (h : Turn.Sound upload answers events (.select s))
    (x : Stimulus Failure) : s.lifecycle.Next (s.take x).2.lifecycle := by
  cases h with
  | select _ sound asked begun =>
      cases x with
      | uploadEnded outcome =>
          rw [UpdateLoop.take_uploadEnded]
          exact (s.afterUpload outcome).progress_next s.wholeImage
            fun _ => .inr (by simp [UpdateLoop.wholeImage])
      | progress newest => exact s.progress_next newest fun hended => .inl (begun hended)
      | closed => exact UpdateLoop.settle_next { s with listening := false } begun
      | tick =>
          by_cases hp : s.lifecycle.phase = .rebooting
          · obtain ⟨k, hk⟩ := sound.account.countdown_of_rebooting hp
            rcases Nat.eq_zero_or_pos k with rfl | hpos
            · rw [UpdateLoop.take_tick_last hp hk]
              exact ⟨hp ▸ .reloaded, rfl⟩
            · rw [UpdateLoop.take_tick_of_pos hp hk hpos]
              have hnext := (s.countedDown k).settle_next begun
              exact ⟨hnext.phase, hnext.start⟩
          · rw [UpdateLoop.take_tick_of_ne_rebooting hp]
            exact s.settle_next begun

/-- **An answer is one step at most.** -/
theorem Turn.Sound.answer_next (h : Turn.Sound upload answers events (.query s))
    (a : Except Failure UpdateReport) : s.lifecycle.Next (s.answer a).2.lifecycle := by
  cases h with
  | query _ sound polling =>
      cases a with
      | error e => exact s.settle_next (by simp [polling])
      | ok r =>
          have hphase := Lifecycle.report_phase polling r
          have hstart := Lifecycle.report_start s.lifecycle r
          change s.lifecycle.Next
            (UpdateLoop.settle { s with lifecycle := (s.lifecycle.report r).2 }).2.lifecycle
          rcases UpdateLoop.settle_lifecycle { s with lifecycle := (s.lifecycle.report r).2 } with
            heq | ⟨-, hawaits, heq⟩
          · rw [heq]
            refine ⟨?_, hstart⟩
            rw [polling, hphase]
            cases r.verdict with
            | failed => exact .rejected
            | pending => exact .same _
            | complete => exact .flashed
          · -- A verdict ends the waiting, so the upload can only break off without one.
            rw [heq]
            exact ⟨polling ▸ .rejected, hstart⟩

end Transitions

end FanControl
