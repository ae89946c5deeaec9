import FanControl.Proofs.Firmware.UpdateRun
import FanControl.Proofs.Session.Waiting

/-!
# Updates against the clock

A `Timeline` takes the stimuli of an update in one order: what is due is taken before anything is
waited for, and the end of the upload first of all. This module shows that **the clock makes one
of the runs**, so that what holds of all runs holds of every update of a session, whatever its
device does.

The clock and the run are kept side by side: `Updating.Tracks` says that they stand at the same
place. A round of the clock is a wait or a turn. A wait is always followed by a turn, and a turn
lowers what is `left` of the update, so the rounds that `Timeline.update` allows for suffice.

## Main results

* `Timeline.round_waits`, `Timeline.round_takes`: the two kinds of rounds, as moves of the run;
* `Timeline.update_isRun`: every update against the clock is a run that is over.
-/

namespace FanControl

/-! ### Uploads -/

/-- What is sent of some files: the one image, unless they are refused. -/
def Lifecycle.uploads (l : Lifecycle) (files : List FirmwareImage) : List Sent :=
  match l.submit files with
  | .ok (image, _) => [.upload image]
  | .error _ => []

/-- Sending hands over a first part of the chunks; the next one is not due. -/
theorem Upload.send_cases (now delay deadline : Nat) (unread : Option UploadProgress)
    (chunks : List Chunk) :
    ∃ before after deadline',
      chunks = before ++ after ∧
      send now delay deadline unread chunks =
        (after, deadline', (before.map (·.progress)).getLast?.or unread) ∧
      (before = [] → deadline' = deadline) ∧ (after ≠ [] → now < deadline') := by
  induction chunks generalizing deadline unread with
  | nil => exact ⟨[], [], deadline, rfl, rfl, fun _ => rfl, fun h => absurd rfl h⟩
  | cons c rest ih =>
      by_cases hdue : deadline ≤ now
      · obtain ⟨before, after, deadline', rfl, hsend, -, hnext⟩ :=
          ih (now + nextDelay delay rest) (some c.progress)
        refine ⟨c :: before, after, deadline', rfl, ?_, by simp, hnext⟩
        rw [send, if_pos hdue, hsend, List.map_cons, List.getLast?_cons]
        cases (before.map (·.progress)).getLast? <;> rfl
      · exact ⟨[], c :: rest, deadline, rfl, by simp [send, hdue], fun _ => rfl, fun _ => by omega⟩

/-! ### Flags -/

/-- The loop that goes on, if one does. -/
def Turn.loop? {ε : Type} : Turn ε → Option (UpdateLoop ε)
  | .select loop | .query loop => some loop
  | .finished _ _ => none

/-- The end of a turn leaves the flags alone that say what may still come in. -/
theorem UpdateLoop.settle_flags {s s' : UpdateLoop Failure} (h : s.settle.2.loop? = some s') :
    s'.ended = s.ended ∧ s'.listening = s.listening := by
  simp only [settle, conclude] at h
  split at h
  · split at h
    · split at h <;> cases h
    · cases h
  · obtain rfl := Option.some.inj h
    exact ⟨rfl, rfl⟩

/-- The end of a turn is not a query. -/
theorem UpdateLoop.settle_ne_query (s s' : UpdateLoop Failure) : s.settle.2 ≠ .query s' := by
  simp only [settle, conclude]
  split
  · split
    · split <;> simp
    · simp
  · simp

/-- Progress leaves the flags alone that say what may still come in. -/
theorem UpdateLoop.progress_flags {s s' : UpdateLoop Failure} {p : UploadProgress}
    (h : (s.progress p).2.loop? = some s') :
    s'.ended = s.ended ∧ s'.listening = s.listening := by
  rcases s.progress_cases p with ⟨-, -, heq⟩ | ⟨-, heq⟩
  · rw [heq] at h
    obtain rfl := Option.some.inj h
    exact ⟨rfl, rfl⟩
  · rw [heq] at h
    exact settle_flags h

/-- The end of the upload request and the end of all progress are noted, and nothing else. -/
theorem UpdateLoop.take_flags {s s' : UpdateLoop Failure} {x : Stimulus Failure}
    (h : (s.take x).2.loop? = some s') :
    (s'.ended = true ↔ s.ended = true ∨ ∃ outcome, x = .uploadEnded outcome) ∧
      (s'.listening = false ↔ s.listening = false ∨ x = .closed) := by
  cases x with
  | uploadEnded outcome =>
      rw [take_uploadEnded] at h
      obtain ⟨hended, hlisten⟩ := progress_flags h
      simp [hended, hlisten, afterUpload]
  | progress newest =>
      obtain ⟨hended, hlisten⟩ := progress_flags h
      simp [hended, hlisten]
  | closed =>
      obtain ⟨hended, hlisten⟩ := settle_flags (s := { s with listening := false }) h
      simp [hended, hlisten]
  | tick =>
      simp only [take] at h
      split at h
      · cases h
      · obtain ⟨hended, hlisten⟩ := settle_flags (s := { s with lifecycle := s.lifecycle.tick.2 }) h
        simp [hended, hlisten]

/-- The end of a turn that waited for an answer is not a query. -/
theorem UpdateLoop.answer_ne_query (s s' : UpdateLoop Failure) (a : Except Failure UpdateReport) :
    (s.answer a).2 ≠ .query s' := by
  cases a with
  | ok report => exact settle_ne_query _ s'
  | error e => exact settle_ne_query _ s'

/-- An answer leaves the flags alone that say what may still come in. -/
theorem UpdateLoop.answer_flags {s s' : UpdateLoop Failure} {a : Except Failure UpdateReport}
    (h : (s.answer a).2.loop? = some s') : s'.ended = s.ended ∧ s'.listening = s.listening := by
  cases a with
  | ok report => exact settle_flags (s := { s with lifecycle := (s.lifecycle.report report).2 }) h
  | error e => exact settle_flags h

namespace Timeline

variable {σ : Type} {D : DeviceModel σ} {w : Timeline σ} {u : Updating} {r : UpdateRun}

/-! ### What a wait leaves alone -/

/-- A wait leaves the period of the countdown alone. -/
theorem sleepUntil_tickPeriod (D : DeviceModel σ) (time : Nat) (w : Timeline σ) :
    (sleepUntil D time w).tickPeriod = w.tickPeriod :=
  congrArg (·.configuration.tickMs.toNat) (sleepUntil_still D time w)

/-- A call takes the time of its reply. -/
theorem call_cases (D : DeviceModel σ) (c : Call) (w : Timeline σ) :
    (call D c w).1.now = w.now + (D.call c w.device).1.delay ∧
    (call D c w).1.tickPeriod = w.tickPeriod ∧
    (call D c w).2 = (D.call c w.device).1.answer := by
  refine ⟨?_, congrArg (·.configuration.tickMs.toNat) (call_still D c w), rfl⟩
  simp only [call, sleep]
  split
  · next hdelay => simp [hdelay]
  · rfl

/-- All that has been sent since a time before are the queries of a run, each of which has been
answered. -/
def Asked (before : List Sent) (r : UpdateRun) (w : Timeline σ) : Prop :=
  w.sent = List.replicate r.answers.length (.call .queryVerdict) ++ before

namespace Asked

variable {before : List Sent} {w' : Timeline σ} {r' : UpdateRun}

/-- What has been asked stays the same while nothing is sent and no answer comes in. -/
theorem congr (h : Asked before r w) (hanswers : r'.answers = r.answers)
    (hsent : w'.sent = w.sent) : Asked before r' w' := by
  rwa [Asked, hanswers, hsent]

/-- A query that is sent and its answer make one more that has been asked. -/
theorem query (h : Asked before r w) {a : Except Failure UpdateReport}
    (hanswers : r'.answers = r.answers ++ [a]) (hsent : w'.sent = .call .queryVerdict :: w.sent) :
    Asked before r' w' := by
  rw [Asked] at h
  rw [Asked, hsent, h, hanswers, List.length_append, List.length_singleton, List.replicate_succ,
    List.cons_append]

end Asked

/-- **Some moves of a run lead it where the clock has got to**, with the events that have been shown
on the way and the queries that have been sent. -/
structure Reaches (w : Timeline σ) (r : UpdateRun) (w' : Timeline σ) (shown : List UpdateEvent)
    (r' : UpdateRun) : Prop where
  moves : ∃ moves, r.run w.tickPeriod moves = some r'
  period : w'.tickPeriod = w.tickPeriod
  events : r'.events = r.events ++ shown
  asked : ∀ before, Asked before r w → Asked before r' w'

namespace Reaches

variable {w' w'' : Timeline σ} {shown more : List UpdateEvent} {r' r'' : UpdateRun}

/-- What a sound run reaches is sound. -/
theorem sound (h : Reaches w r w' shown r') (hr : r.Sound) : r'.Sound :=
  let ⟨_, hmoves⟩ := h.moves
  hr.run hmoves

/-- The moves of one stretch of time are followed by those of the next one. -/
theorem trans (h : Reaches w r w' shown r') (h' : Reaches w' r' w'' more r'') :
    Reaches w r w'' (shown ++ more) r'' := by
  obtain ⟨moves, hmoves⟩ := h.moves
  obtain ⟨later, hlater⟩ := h'.moves
  rw [h.period] at hlater
  refine ⟨⟨moves ++ later, ?_⟩, h'.period.trans h.period, ?_, fun before hbefore =>
    h'.asked before (h.asked before hbefore)⟩
  · rw [UpdateRun.run_append, hmoves, Option.bind_some, hlater]
  · rw [h'.events, h.events, List.append_assoc]

end Reaches

/-! ### Side by side -/

/-- The clock and a run stand at the same place. -/
structure Updating.Tracks (u : Updating) (now : Nat) (r : UpdateRun) : Prop where
  now : r.now = now
  turn : r.turn = .select u.loop
  coming : r.coming = u.upload.chunks.map (·.progress)
  unread : r.unread.getLast? = u.upload.unread
  due : r.due = u.tick
  finished : u.loop.ended = true → u.upload.chunks = []
  closed : u.loop.listening = false → u.loop.ended = true ∧ u.upload.unread = none

/-- What is left of an update: a bound for its turns. -/
def Updating.left (u : Updating) : Nat :=
  u.upload.chunks.length + (if u.upload.unread.isSome then 1 else 0) + u.loop.rank

/-- When the clock catches up with the upload, the run gets some reports, and no more is left than
before. -/
theorem Updating.Tracks.catchUp {now : Nat} (period : Nat) (h : u.Tracks now r) :
    ∃ moves r', r.run period moves = some r' ∧ (u.catchUp now).Tracks now r' ∧
      r'.events = r.events ∧ r'.answers = r.answers ∧ (u.catchUp now).left ≤ u.left ∧
      ((u.catchUp now).loop.ended = false → (u.catchUp now).upload.chunks ≠ [] →
        now < (u.catchUp now).upload.deadline) := by
  rw [Updating.catchUp]
  split
  · next hended =>
    exact ⟨[], r, rfl, h, rfl, rfl, Nat.le_refl _, fun hno => by simp [hended] at hno⟩
  · next hended =>
    obtain ⟨before, after, deadline', hchunks, hsend, -, hnext⟩ :=
      Upload.send_cases now u.upload.delay u.upload.deadline u.upload.unread u.upload.chunks
    have hcoming : r.coming = before.map (·.progress) ++ after.map (·.progress) := by
      rw [h.coming, hchunks, List.map_append]
    have hadvance : u.upload.advance now = { u.upload with
        chunks := after
        deadline := deadline'
        unread := (before.map (·.progress)).getLast?.or u.upload.unread } := by
      simp [Upload.advance, hsend]
    rw [hadvance]
    refine ⟨_, _, UpdateRun.run_reports period _ _ h.turn hcoming, ?_, rfl, rfl, ?_,
      fun _ => hnext⟩
    · exact ⟨h.now, h.turn, rfl, by simp [List.getLast?_append, h.unread], h.due,
        fun hno => absurd hno hended, fun hno => absurd (h.closed hno).1 hended⟩
    · have hlength : u.upload.chunks.length = before.length + after.length := by simp [hchunks]
      simp only [Updating.left, hlength]
      cases before with
      | nil => simp
      | cons c before =>
          simp only [List.length_cons]
          split <;> split <;> omega

/-- Some of an update is left as long as its run is not over. -/
theorem Updating.Tracks.left_pos {now : Nat} (h : u.Tracks now r) (hr : r.Sound) : 0 < u.left := by
  cases hr.turn_of h.turn with
  | select _ sound asked begun counting busy =>
      have hrank : 0 < u.loop.rank := by
        cases hended : u.loop.ended with
        | false =>
            simp only [UpdateLoop.rank, hended, Bool.false_eq_true, if_false]
            omega
        | true =>
            cases hlisten : u.loop.listening with
            | true =>
                simp only [UpdateLoop.rank, hlisten, if_true]
                omega
            | false =>
                have hp := sound.counting (busy hended hlisten)
                obtain ⟨k, hk⟩ := sound.account.countdown_of_rebooting hp
                have hleft : u.loop.lifecycle.left = k + 1 := by simp [Lifecycle.left, hp, hk]
                simp only [UpdateLoop.rank, hleft]
                omega
      exact Nat.lt_of_lt_of_le hrank (Nat.le_add_left _ _)

/-- When nothing more can come in, the countdown is running. -/
theorem Updating.Tracks.tick_of_closed {now : Nat} (h : u.Tracks now r) (hr : r.Sound)
    (hended : u.loop.ended = true) (hlisten : u.loop.listening = false) :
    u.tick.isSome = true := by
  have htimed := hr.timed
  rw [h.turn, h.due] at htimed
  cases hr.turn_of h.turn with
  | select _ _ _ _ _ busy => rw [htimed, Turn.counting, busy hended hlisten]

/-! ### A wait -/

/-- If nothing is ready, the upload is not over, no progress is unread, and no step of the countdown
is due. -/
theorem Updating.stimulus?_eq_none {now : Nat} (h : u.stimulus? now = none) :
    (u.loop.ended = false → u.upload.isOver now = false) ∧ u.upload.unread = none ∧
      (u.loop.ended = true → u.loop.listening = false) ∧
      (∀ due, u.tick = some due → now < due) := by
  rw [Updating.stimulus?] at h
  split at h
  · cases h
  · next hover =>
    split at h
    · cases h
    · next hunread =>
      split at h
      · cases h
      · next hclosed =>
        refine ⟨by simpa using hover, hunread, by simpa using hclosed, ?_⟩
        intro due hdue
        rw [hdue] at h
        by_contra hle
        simp [Nat.le_of_not_lt hle] at h

/-- What is ready is the end of the upload, unread progress, the end of all progress, or a step of
the countdown. -/
theorem Updating.stimulus?_cases {now : Nat} {x : Stimulus Failure} (h : u.stimulus? now = some x) :
    (x = .uploadEnded u.upload.outcome ∧ u.loop.ended = false ∧ u.upload.chunks = []) ∨
    (∃ newest, x = .progress newest ∧ u.upload.unread = some newest) ∨
    (x = .closed ∧ u.upload.unread = none ∧ u.loop.ended = true ∧ u.loop.listening = true) ∨
    (∃ due, x = .tick ∧ u.tick = some due ∧ due ≤ now) := by
  rw [Updating.stimulus?] at h
  split at h
  · next hover =>
    simp only [Upload.isOver, Bool.and_eq_true, Bool.not_eq_true', List.isEmpty_iff] at hover
    exact .inl ⟨(Option.some.inj h).symm, hover.1, hover.2.1⟩
  · split at h
    · next newest hunread =>
      exact .inr (.inl ⟨newest, (Option.some.inj h).symm, hunread⟩)
    · next hunread =>
      split at h
      · next hclosed =>
        simp only [Bool.and_eq_true] at hclosed
        exact .inr (.inr (.inl ⟨(Option.some.inj h).symm, hunread, hclosed.1, hclosed.2⟩))
      · split at h
        · next due hdue =>
          split at h
          · next hle =>
            exact .inr (.inr (.inr ⟨due, (Option.some.inj h).symm, hdue, hle⟩))
          · cases h
        · cases h

/-- A wait ends later than it begins, and something is ready then. -/
theorem Updating.wake_ready {now : Nat} (hnone : u.stimulus? now = none)
    (hchunks : u.loop.ended = false → u.upload.chunks ≠ [] → now < u.upload.deadline)
    (htick : u.loop.ended = true → u.loop.listening = false → u.tick.isSome = true) :
    now < u.wake now ∧
      ((u.catchUp (u.wake now)).stimulus? (u.wake now)).isSome = true := by
  obtain ⟨hover, hunread, hclosed, hdue⟩ := stimulus?_eq_none hnone
  rw [Option.isSome_iff_ne_none]
  cases hended : u.loop.ended with
  | true =>
      obtain ⟨due, htick⟩ := Option.isSome_iff_exists.mp (htick hended (hclosed hended))
      have hwake : u.wake now = due := by simp [Updating.wake, hended, htick]
      rw [hwake]
      refine ⟨hdue due htick, ?_⟩
      intro hready
      have := (stimulus?_eq_none hready).2.2.2 due (by simp [Updating.catchUp, hended, htick])
      omega
  | false =>
      have hdeadline : now < u.upload.deadline := by
        by_cases hempty : u.upload.chunks = []
        · simpa [Upload.isOver, hempty] using hover hended
        · exact hchunks hended hempty
      have hwake : now < u.wake now ∧
          (u.wake now = u.upload.deadline ∨ u.tick = some (u.wake now)) := by
        cases htick : u.tick with
        | none => exact ⟨by simpa [Updating.wake, hended, htick] using hdeadline,
            .inl (by simp [Updating.wake, hended, htick])⟩
        | some due =>
            have := hdue due htick
            simp only [Updating.wake, hended, htick, Option.some.injEq]
            omega
      refine ⟨hwake.1, ?_⟩
      intro hready
      obtain ⟨hover', hunread', -, hdue'⟩ := stimulus?_eq_none hready
      obtain ⟨before, after, deadline', hsplit, hsend, hkept, hnext⟩ := Upload.send_cases
        (u.wake now) u.upload.delay u.upload.deadline u.upload.unread u.upload.chunks
      simp only [Updating.catchUp, hended, Bool.false_eq_true, if_false, Upload.advance, hsend]
        at hover' hunread' hdue'
      rcases hwake.2 with hat | hat
      · -- The upload is due: it sends a chunk, or it is over.
        obtain rfl : before = [] := by simpa [hunread] using hunread'
        obtain rfl : after = [] := by
          by_contra hafter
          have := hnext hafter
          have := hkept rfl
          omega
        have := hkept rfl
        simp [Upload.isOver, this, hat] at hover'
      · exact absurd (hdue' _ hat) (Nat.lt_irrefl _)

/-- A wait is a move of the run. -/
theorem Updating.Tracks.wait {now : Nat} (period : Nat) {time : Nat} (h : u.Tracks now r)
    (htime : now ≤ time) :
    ∃ r', r.run period [.wait (time - now)] = some r' ∧ u.Tracks time r' ∧
      r'.events = r.events ∧ r'.answers = r.answers := by
  refine ⟨{ r with now := r.now + (time - now) }, ?_, ?_, rfl, rfl⟩
  · simp [UpdateRun.move?, h.turn, UpdateRun.stimulus?, UpdateRun.background?]
  · exact ⟨by simp only [h.now]; omega, h.turn, h.coming, h.unread, h.due, h.finished,
      h.closed⟩

/-! ### A turn -/

/-- The move that hands over a stimulus. -/
def moveOf : Stimulus Failure → UpdateMove
  | .uploadEnded outcome => .finish outcome
  | .progress _ => .look
  | .closed => .close
  | .tick => .tick

/-- What the clock finds ready is ready in the run. -/
theorem Updating.Tracks.ready {now : Nat} (h : u.Tracks now r) (hr : r.Sound)
    {x : Stimulus Failure} (hx : u.stimulus? now = some x) :
    r.stimulus? (moveOf x) = some x ∧ u.loop.isReady x = true := by
  rcases Updating.stimulus?_cases hx with ⟨rfl, hended, -⟩ | ⟨newest, rfl, hunread⟩ |
    ⟨rfl, hunread, hended, hlisten⟩ | ⟨due, rfl, hdue, hle⟩
  · exact ⟨rfl, by simp [UpdateLoop.isReady, hended]⟩
  · refine ⟨by simp [moveOf, UpdateRun.stimulus?, h.unread, hunread], ?_⟩
    cases hlisten : u.loop.listening with
    | true => exact hlisten
    | false =>
        rw [(h.closed hlisten).2] at hunread
        cases hunread
  · have hseen : r.unread = [] := List.getLast?_eq_none_iff.mp (h.unread.trans hunread)
    exact ⟨by simp [moveOf, UpdateRun.stimulus?, h.coming, h.finished hended, hseen], hlisten⟩
  · have htimed := hr.timed
    rw [h.due, hdue, h.turn] at htimed
    exact ⟨by simp [moveOf, UpdateRun.stimulus?, h.due, hdue, h.now, hle], htimed.symm⟩

/-- What the clock finds ready is a move that the run can make. -/
theorem Updating.Tracks.move {now : Nat} (period : Nat) (h : u.Tracks now r) (hr : r.Sound)
    {x : Stimulus Failure} (hx : u.stimulus? now = some x) :
    r.move? period (moveOf x) =
      some ((r.consume period (moveOf x)).proceed period (u.loop.take x)) := by
  obtain ⟨hstimulus, hready⟩ := h.ready hr hx
  simp [UpdateRun.move?, h.turn, hstimulus, hready]

/-- A turn that goes on lowers what is left, be it by the query that it asks for. -/
theorem Updating.Tracks.take_left {now : Nat} (period : Nat) (h : u.Tracks now r) (hr : r.Sound)
    {x : Stimulus Failure} (hx : u.stimulus? now = some x) {s : UpdateLoop Failure}
    (hs : (u.loop.take x).2.loop? = some s) :
    ((u.consume period x).proceed period now s).left < u.left := by
  have hsound := hr.turn_of h.turn
  have hready := (h.ready hr hx).2
  have hloop {t : Turn Failure} (ht : t.loop? = some s) : s.rank ≤ t.rank := by
    cases t with
    | select s' => exact Nat.le_of_eq (congrArg _ (Option.some.inj ht).symm)
    | query s' =>
        obtain rfl := Option.some.inj ht
        exact Nat.le_succ _
    | finished _ _ => cases ht
  have hlower (hx : ∀ p, x ≠ .progress p) : s.rank < u.loop.rank :=
    Nat.lt_of_le_of_lt (hloop hs) (hsound.take_rank hready hx)
  cases x with
  | progress newest =>
      have hkept : s.rank ≤ u.loop.rank := by
        rcases u.loop.progress_cases newest with ⟨-, -, heq⟩ | ⟨-, heq⟩
        · have hquery := u.loop.progress_rank newest
          rw [UpdateLoop.take, heq] at hs
          rw [heq] at hquery
          obtain rfl := Option.some.inj hs
          exact Nat.le_of_succ_le_succ hquery
        · rw [UpdateLoop.take, heq] at hs
          exact Nat.le_trans (hloop hs) u.loop.settle_rank
      obtain ⟨hno, -⟩ | ⟨p, -, hunread⟩ | ⟨hno, -⟩ | ⟨_, hno, -⟩ := Updating.stimulus?_cases hx
      · cases hno
      · simp only [Updating.left, Updating.consume, Updating.proceed, hunread, Option.isSome_none,
          Option.isSome_some, Bool.false_eq_true, if_false, if_true]
        omega
      · cases hno
      · cases hno
  | uploadEnded outcome =>
      exact Nat.add_lt_add_left (hlower (by simp)) _
  | closed =>
      exact Nat.add_lt_add_left (hlower (by simp)) _
  | tick =>
      exact Nat.add_lt_add_left (hlower (by simp)) _

/-- A turn that goes on leads the clock and the run to the same place. -/
theorem Updating.Tracks.after {now now' period : Nat} (h : u.Tracks now r)
    {x : Stimulus Failure} (hx : u.stimulus? now = some x) {s : UpdateLoop Failure}
    (hended : s.ended = true ↔ u.loop.ended = true ∨ ∃ outcome, x = .uploadEnded outcome)
    (hlisten : s.listening = false ↔ u.loop.listening = false ∨ x = .closed) {r' : UpdateRun}
    (hnow : r'.now = now') (hturn : r'.turn = .select s) (hcoming : r'.coming = r.coming)
    (hunread : r'.unread = (r.consume period (moveOf x)).unread)
    (hdue : r'.due = ((u.consume period x).proceed period now' s).tick) :
    ((u.consume period x).proceed period now' s).Tracks now' r' := by
  have hchunks : (u.consume period x).upload.chunks = u.upload.chunks := by cases x <;> rfl
  refine ⟨hnow, hturn, ?_, ?_, hdue, ?_, ?_⟩
  · rw [hcoming, h.coming, ← hchunks]
    rfl
  · rw [hunread]
    cases x with
    | progress newest => rfl
    | uploadEnded _ | closed | tick => exact h.unread
  · intro he
    change (u.consume period x).upload.chunks = []
    rw [hchunks]
    rcases hended.mp he with he | ⟨outcome, rfl⟩
    · exact h.finished he
    · obtain ⟨-, -, hempty⟩ | ⟨_, hno, -⟩ | ⟨hno, -⟩ | ⟨_, hno, -⟩ := Updating.stimulus?_cases hx
      · exact hempty
      · cases hno
      · cases hno
      · cases hno
  · intro hl
    change s.ended = true ∧ (u.consume period x).upload.unread = none
    obtain ⟨he, hnone⟩ : u.loop.ended = true ∧ u.upload.unread = none := by
      rcases hlisten.mp hl with hl | rfl
      · exact h.closed hl
      · obtain ⟨hno, -⟩ | ⟨_, hno, -⟩ | ⟨-, hnone, he, -⟩ | ⟨_, hno, -⟩ :=
          Updating.stimulus?_cases hx
        · cases hno
        · cases hno
        · exact ⟨he, hnone⟩
        · cases hno
    refine ⟨hended.mpr (.inl he), ?_⟩
    cases x with
    | progress newest => rfl
    | uploadEnded _ | closed | tick => exact hnone

/-- A query is asked for while no countdown is running. -/
theorem take_query {s s' : UpdateLoop Failure} {x : Stimulus Failure}
    (h : (s.take x).2 = .query s') : s'.counting = s.counting ∧ x ≠ .tick := by
  have hprogress {s : UpdateLoop Failure} {p : UploadProgress}
      (h : (s.progress p).2 = .query s') : s'.counting = s.counting := by
    rcases s.progress_cases p with ⟨-, -, heq⟩ | ⟨-, heq⟩
    · rw [heq] at h
      obtain rfl := Turn.query.inj h
      rfl
    · rw [heq] at h
      exact absurd h (s.settle_ne_query s')
  cases x with
  | uploadEnded outcome =>
      rw [UpdateLoop.take_uploadEnded] at h
      exact ⟨hprogress (s := s.afterUpload outcome) h, by simp⟩
  | progress newest => exact ⟨hprogress h, by simp⟩
  | closed => exact absurd h (UpdateLoop.settle_ne_query _ _)
  | tick =>
      simp only [UpdateLoop.take] at h
      split at h
      · cases h
      · exact absurd h (UpdateLoop.settle_ne_query _ _)

/-- Taking up a stimulus takes no time and shows nothing, and sets the countdown of the run as the
clock does. -/
theorem Updating.Tracks.consume_frame {now : Nat} (period : Nat) (h : u.Tracks now r)
    (x : Stimulus Failure) :
    (r.consume period (moveOf x)).coming = r.coming ∧ (r.consume period (moveOf x)).now = now ∧
      (r.consume period (moveOf x)).events = r.events ∧
      (r.consume period (moveOf x)).answers = r.answers ∧
      (r.consume period (moveOf x)).due = (u.consume period x).tick := by
  cases x with
  | tick => exact ⟨rfl, h.now, rfl, rfl, congrArg (Option.map (· + period)) h.due⟩
  | uploadEnded _ | progress _ | closed => exact ⟨rfl, h.now, rfl, rfl, h.due⟩

/-- No countdown is running when a query is asked for. -/
theorem Updating.Tracks.idle_of_query {now : Nat} (period : Nat) (h : u.Tracks now r)
    (hr : r.Sound) {x : Stimulus Failure} (hx : u.stimulus? now = some x) {s : UpdateLoop Failure}
    (hnext : (u.loop.take x).2 = .query s) :
    s.counting = false ∧ (u.consume period x).tick = none := by
  obtain ⟨hcount, hx'⟩ := take_query hnext
  have hidle : s.counting = false := by
    cases ((hr.move (h.move period hr hx)).turn_of (t := .query s) hnext) with
    | query _ sound polling =>
        cases hc : s.counting with
        | false => rfl
        | true => simp [sound.counting hc] at polling
  have htimed := hr.timed
  rw [h.due, h.turn, Turn.counting, ← hcount, hidle] at htimed
  have hnone : u.tick = none := by simpa using htimed
  cases x with
  | tick => exact absurd rfl hx'
  | uploadEnded _ | progress _ | closed => exact ⟨hidle, hnone⟩

/-- **A turn against the clock as some moves of the run.** The update is over after them, or it
goes on with less that is left. -/
structure Updating.Makes (u : Updating) (x : Stimulus Failure) (w : Timeline σ) (r r' : UpdateRun)
    (outcome : Timeline σ × List UpdateEvent × Turn Failure) : Prop
    extends Reaches w r outcome.1 outcome.2.1 r' where
  turn : r'.turn = outcome.2.2
  answered : ∀ s, r'.turn ≠ .query s
  next : ∀ s, r'.turn = .select s →
    ((u.consume w.tickPeriod x).proceed w.tickPeriod outcome.1.now s).Tracks outcome.1.now r' ∧
      ((u.consume w.tickPeriod x).proceed w.tickPeriod outcome.1.now s).left < u.left

/-- A turn without a query is one move. -/
theorem turn_move (h : u.Tracks w.now r) (hr : r.Sound) {x : Stimulus Failure}
    (hx : u.stimulus? w.now = some x) (hnext : ∀ s, (u.loop.take x).2 ≠ .query s) :
    ∃ r', u.Makes x w r r' (turn D u.loop x w) := by
  have hmove := h.move w.tickPeriod hr hx
  obtain ⟨hcoming, hnow, hevents, hanswers, hdue⟩ := h.consume_frame w.tickPeriod x
  have hturn : turn D u.loop x w =
      (w.showEvents (u.loop.take x).1, (u.loop.take x).1, (u.loop.take x).2) := by
    cases ht : (u.loop.take x).2 with
    | query s => exact absurd ht (hnext s)
    | select _ | finished _ _ => simp [turn, ht]
  rw [hturn]
  refine ⟨_, ⟨⟨⟨_, (UpdateRun.run_singleton r _).trans hmove⟩, rfl, congrArg (· ++ _) hevents, ?_⟩,
    rfl, hnext, ?_⟩⟩
  · exact fun before hasked => hasked.congr hanswers rfl
  intro s hs
  change (u.loop.take x).2 = .select s at hs
  obtain ⟨hended, hlisten⟩ := UpdateLoop.take_flags (x := x) (s := u.loop)
    (congrArg Turn.loop? hs)
  refine ⟨h.after hx hended hlisten hnow hs hcoming rfl ?_,
    h.take_left w.tickPeriod hr hx (congrArg Turn.loop? hs)⟩
  change (if (u.loop.take x).2.counting then _ else none) = _
  rw [hs, hdue, hnow]
  rfl

/-- A turn with a query is a move, and then the answer after the time that the call takes. -/
theorem turn_query (h : u.Tracks w.now r) (hr : r.Sound) {x : Stimulus Failure}
    (hx : u.stimulus? w.now = some x) {s : UpdateLoop Failure}
    (hnext : (u.loop.take x).2 = .query s) :
    ∃ r', u.Makes x w r r' (turn D u.loop x w) := by
  have hmove := h.move w.tickPeriod hr hx
  obtain ⟨hcoming, hnow, hevents, hanswers, hdue⟩ := h.consume_frame w.tickPeriod x
  obtain ⟨hidle, htick⟩ := h.idle_of_query w.tickPeriod hr hx hnext
  obtain ⟨hcall, hperiod, hanswer⟩ :=
    call_cases D .queryVerdict (w.showEvents (u.loop.take x).1)
  have hsent := call_sent D .queryVerdict (w.showEvents (u.loop.take x).1)
  generalize ha : (call D .queryVerdict (w.showEvents (u.loop.take x).1)).2 = a at *
  generalize hw : (call D .queryVerdict (w.showEvents (u.loop.take x).1)).1 = w₁ at *
  have hturn : turn D u.loop x w =
      (w₁.showEvents (s.answer a).1, (u.loop.take x).1 ++ (s.answer a).1, (s.answer a).2) := by
    simp [turn, hnext, ← ha, ← hw]
  have hlater : (r.consume w.tickPeriod (moveOf x)).now + (w₁.now - w.now) = w₁.now := by
    change w₁.now = w.now + _ at hcall
    rw [hnow, hcall]
    omega
  have hquery := UpdateRun.run_answer w.tickPeriod
    (r := (r.consume w.tickPeriod (moveOf x)).proceed w.tickPeriod (u.loop.take x)) hnext
    (w₁.now - w.now) a
  rw [hturn]
  refine ⟨_, ⟨⟨⟨_, (UpdateRun.run_cons hmove _).trans hquery⟩, hperiod, ?_, ?_⟩, rfl,
    fun s' => s.answer_ne_query s' a, ?_⟩⟩
  · change (r.consume w.tickPeriod (moveOf x)).events ++ _ ++ _ = _
    rw [hevents, List.append_assoc]
  · exact fun before hasked => hasked.query (congrArg (· ++ [a]) hanswers) hsent
  · intro s' hs
    change (s.answer a).2 = .select s' at hs
    obtain ⟨hended, hlisten⟩ := UpdateLoop.take_flags (x := x) (s := u.loop)
      (congrArg Turn.loop? hnext)
    obtain ⟨hended', hlisten'⟩ := UpdateLoop.answer_flags (congrArg Turn.loop? hs)
    have hleft := h.take_left w.tickPeriod hr hx (congrArg Turn.loop? hnext)
    have hrank := ((hr.move hmove).turn_of (t := .query s) hnext).answer_rank a
    rw [hs] at hrank
    refine ⟨h.after hx (by rw [hended', hended]) (by rw [hlisten', hlisten]) hlater hs hcoming
      rfl ?_, Nat.lt_of_le_of_lt (Nat.add_le_add_left hrank _) hleft⟩
    change (if (s.answer a).2.counting then
        (if (u.loop.take x).2.counting then _ else none).or
          (some ((r.consume w.tickPeriod (moveOf x)).now + (w₁.now - w.now) + w.tickPeriod))
      else none) = _
    rw [hs, hnext, hlater]
    simp only [Turn.counting, hidle, Updating.proceed, htick]
    rfl

/-- **Every turn against the clock is some moves of the run.** -/
theorem turn_moves (h : u.Tracks w.now r) (hr : r.Sound) {x : Stimulus Failure}
    (hx : u.stimulus? w.now = some x) : ∃ r', u.Makes x w r r' (turn D u.loop x w) := by
  cases hnext : (u.loop.take x).2 with
  | query s => exact turn_query h hr hx hnext
  | select _ | finished _ _ => exact turn_move h hr hx (by simp [hnext])

/-! ### Rounds -/

/-- Before a round nothing is shown or sent: the upload only reports what it has done by then. -/
theorem Updating.Tracks.reaches_catchUp (h : u.Tracks w.now r) :
    ∃ r', Reaches w r w [] r' ∧ (u.catchUp w.now).Tracks w.now r' ∧
      (u.catchUp w.now).left ≤ u.left ∧
      ((u.catchUp w.now).loop.ended = false → (u.catchUp w.now).upload.chunks ≠ [] →
        w.now < (u.catchUp w.now).upload.deadline) := by
  obtain ⟨reports, r', hreports, h', hevents, hanswers, hleft, hchunks⟩ := h.catchUp w.tickPeriod
  refine ⟨r', ⟨⟨reports, hreports⟩, rfl, ?_, fun before hasked => hasked.congr hanswers rfl⟩, h',
    hleft, hchunks⟩
  rw [hevents, List.append_nil]

/-- **The round that waits**: if nothing is ready, the clock goes on to where something is, and no
more of the update is left than before. -/
theorem round_waits (h : u.Tracks w.now r) (hr : r.Sound)
    (hx : (u.catchUp w.now).stimulus? w.now = none) :
    ∃ u' w' r', (∀ n, runUpdate D (n + 1) u w = runUpdate D n u' w') ∧
      Reaches w r w' [] r' ∧ u'.Tracks w'.now r' ∧ u'.left ≤ u.left ∧
      ((u'.catchUp w'.now).stimulus? w'.now).isSome = true := by
  obtain ⟨r₁, hcaught, h₁, hleft, hchunks⟩ := h.reaches_catchUp
  obtain ⟨hlater, hready⟩ :=
    Updating.wake_ready hx hchunks (h₁.tick_of_closed (hcaught.sound hr))
  obtain ⟨r₂, hwait, h₂, hevents, hanswers⟩ := h₁.wait w.tickPeriod (Nat.le_of_lt hlater)
  have hslept : Reaches w r₁ (sleepUntil D ((u.catchUp w.now).wake w.now) w) [] r₂ := by
    refine ⟨⟨_, hwait⟩, sleepUntil_tickPeriod D _ w, ?_, fun before hasked =>
      hasked.congr hanswers (sleepUntil_sent D _ w)⟩
    rw [hevents, List.append_nil]
  exact ⟨_, _, r₂, fun n => by simp [runUpdate, hx], hcaught.trans hslept, h₂, hleft, hready⟩

/-- **The round that takes a stimulus**: the update is over after it, or it goes on with less that
is left. -/
theorem round_takes (h : u.Tracks w.now r) (hr : r.Sound) {x : Stimulus Failure}
    (hx : (u.catchUp w.now).stimulus? w.now = some x) :
    ∃ w' shown r', Reaches w r w' shown r' ∧
      ((∃ l result, r'.turn = .finished l result ∧
          ∀ n, runUpdate D (n + 1) u w =
            (w'.mapSession fun s => { s with lifecycle := l }, shown, result)) ∨
        ∃ u', u'.Tracks w'.now r' ∧ u'.left < u.left ∧
          ∀ n, runUpdate D (n + 1) u w =
            ((runUpdate D n u' w').1, shown ++ (runUpdate D n u' w').2.1,
              (runUpdate D n u' w').2.2)) := by
  obtain ⟨r₁, hcaught, h₁, hleft, -⟩ := h.reaches_catchUp
  obtain ⟨r₂, hmakes⟩ := turn_moves (D := D) h₁ (hcaught.sound hr) hx
  have hturn := hmakes.turn
  refine ⟨_, _, r₂, hcaught.trans hmakes.toReaches, ?_⟩
  generalize ht : turn D (u.catchUp w.now).loop x w = outcome at *
  obtain ⟨w', shown, t⟩ := outcome
  cases t with
  | finished l result => exact .inl ⟨l, result, hturn, fun n => by simp [runUpdate, hx, ht]⟩
  | query s => exact absurd hturn (hmakes.answered s)
  | select s =>
      obtain ⟨h₂, hless⟩ := hmakes.next s hturn
      rw [← show w'.tickPeriod = w.tickPeriod from hmakes.period] at h₂ hless
      exact .inr ⟨_, h₂, Nat.lt_of_lt_of_le hless hleft, fun n => by simp [runUpdate, hx, ht]⟩

/-! ### The whole update -/

/-- **An update that goes on against the clock is some moves of its run**, and it comes to an end
in the rounds that it has: two for each turn that is left, but one for the turn that is ready. -/
theorem runUpdate_moves (n : Nat) (h : u.Tracks w.now r) (hr : r.Sound)
    (hrounds : 2 * u.left ≤
      n + if ((u.catchUp w.now).stimulus? w.now).isSome then 1 else 0) :
    ∃ r', Reaches w r (runUpdate D n u w).1 (runUpdate D n u w).2.1 r' ∧
      r'.turn =
        .finished (runUpdate D n u w).1.session.lifecycle (runUpdate D n u w).2.2 := by
  induction n generalizing u w r with
  | zero =>
      have := h.left_pos hr
      split at hrounds <;> omega
  | succ n ih =>
      cases hx : (u.catchUp w.now).stimulus? w.now with
      | none =>
          obtain ⟨u', w', r₁, hround, hreaches, h₁, hleft, hready⟩ := round_waits (D := D) h hr hx
          have hrounds' : 2 * u'.left ≤
              n + if ((u'.catchUp w'.now).stimulus? w'.now).isSome then 1 else 0 := by
            rw [if_pos hready]
            simp only [hx, Option.isSome_none, Bool.false_eq_true, if_false] at hrounds
            omega
          obtain ⟨r', hrest, hover⟩ := ih h₁ (hreaches.sound hr) hrounds'
          rw [hround]
          exact ⟨r', hreaches.trans hrest, hover⟩
      | some x =>
          obtain ⟨w', shown, r₁, hreaches, hend | ⟨u', h₁, hless, hround⟩⟩ :=
            round_takes (D := D) h hr hx
          · obtain ⟨l, result, hturn, hround⟩ := hend
            rw [hround]
            exact ⟨r₁, ⟨hreaches.moves, hreaches.period, hreaches.events, hreaches.asked⟩, hturn⟩
          · obtain ⟨r', hrest, hover⟩ :=
              ih h₁ (hreaches.sound hr) (by split at hrounds <;> omega)
            rw [hround]
            exact ⟨r', hreaches.trans hrest, hover⟩

/-- **Every update of a session is a run that is over**, with the same events, the same result and
the same lifecycle in the end. What the upload reports is up to the device. If the files are not
refused, the image is sent and then the queries of the run, each of them once. -/
theorem update_isRun (D : DeviceModel σ) (files : List FirmwareImage) (w : Timeline σ) :
    ∃ coming moves r l',
      (UpdateRun.start w.now w.session.lifecycle files coming).run w.tickPeriod moves = some r ∧
      r.turn = .finished l' (update D files w).2.2 ∧
      r.events = (update D files w).2.1 ∧
      Asked (w.session.lifecycle.uploads files ++ w.sent) r (update D files w).1 ∧
      (update D files w).1.session.lifecycle = l' := by
  cases hsubmit : w.session.lifecycle.submit files with
  | error e =>
      refine ⟨[], [], _, w.session.lifecycle, rfl, ?_⟩
      simp [UpdateRun.start, update, hsubmit, Asked, Lifecycle.uploads]
  | ok started =>
      obtain ⟨image, events, l⟩ := started
      obtain ⟨hidle, rfl, rfl, rfl⟩ := Lifecycle.submit_eq_ok hsubmit
      let plan := (D.upload image w.device).1
      let w₀ : Timeline σ := showEvents [.uploading]
        { w with device := (D.upload image w.device).2, sent := .upload image :: w.sent }
      let u₀ : Updating :=
        ⟨.begin w.session.lifecycle.submitted image, .start plan w.now, none⟩
      let coming := plan.chunks.map (·.progress)
      have htracks : u₀.Tracks w₀.now (.start w.now w.session.lifecycle [image] coming) := by
        rw [UpdateRun.start_of_idle hidle]
        refine ⟨rfl, rfl, rfl, rfl, rfl, ?_, ?_⟩ <;> simp [u₀, UpdateLoop.begin]
      let rounds := 2 * (plan.chunks.length + w.session.lifecycle.start + 4)
      have hrounds : 2 * u₀.left ≤ rounds +
          if ((u₀.catchUp w₀.now).stimulus? w₀.now).isSome then 1 else 0 := by
        have hleft : u₀.left = plan.chunks.length + (w.session.lifecycle.start + 3) := by
          simp [u₀, Updating.left, Upload.start, UpdateLoop.rank, UpdateLoop.begin,
            Lifecycle.submitted, Lifecycle.left, Nat.add_comm]
        simp only [rounds]
        omega
      obtain ⟨r, ⟨⟨moves, hrun⟩, -, hevents, hasked⟩, hover⟩ :=
        runUpdate_moves (D := D) _ htracks (UpdateRun.sound_start _ image coming hidle) hrounds
      have hupdate : update D [image] w =
          ((runUpdate D rounds u₀ w₀).1, .uploading :: (runUpdate D rounds u₀ w₀).2.1,
            (runUpdate D rounds u₀ w₀).2.2) := by
        simp only [update, hsubmit]
        rfl
      rw [hupdate]
      refine ⟨coming, moves, r, _, hrun, hover, ?_, hasked _ ?_, rfl⟩
      · rw [hevents, UpdateRun.start_of_idle hidle]
        rfl
      · rw [UpdateRun.start_of_idle hidle, Lifecycle.uploads, hsubmit]
        rfl

end Timeline

end FanControl
