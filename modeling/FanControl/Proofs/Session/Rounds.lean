import FanControl.Proofs.Firmware.Clock
import FanControl.Proofs.Firmware.InFlight
import FanControl.Session.Observation

/-!
# Rounds of a session

Against a clock an operation waits as long as its device lets it, and polling does what falls due.
What can happen at all is more: a device may answer anything at any time, and polling may do any of
its work between two commands and during each wait. Of all that only two things are certain:
polling leaves alone what is `Session.still`, and an update is one of the runs of its loop.

`Suspended.Ends` says how an operation under way **can** end, and what it has sent by then. A
`SessionRound` is a command that was carried out in this way, and `Session.Run` is any number of
them with polling in between. A session against a clock is one of these runs, whatever its device
does, so that a law about all runs is a law about every session.

## Main results

* `Timeline.runSuspended_ends`: an operation against the clock ends as it can;
* `Timeline.after_run`: some steps against the clock are a run.
-/

namespace FanControl

/-! ### What an update sends -/

namespace UpdateRun

/-- What a run has sent: the image, unless the files were refused, and its queries. -/
def sent (files : List FirmwareImage) (r : UpdateRun) : List Sent :=
  (match r.upload with
    | .unsent => []
    | .inFlight | .ended _ => files.map .upload) ++
  List.replicate r.answers.length (.call .queryVerdict)

variable {period now : Nat} {l : Lifecycle} {coming : List UploadProgress}
  {files : List FirmwareImage} {moves : List UpdateMove} {r r' : UpdateRun} {m : UpdateMove}

/-- An upload that has been sent remains one that has. -/
theorem upload_ne_unsent_of_move (h : r.move? period m = some r') (hr : r.upload ≠ .unsent) :
    r'.upload ≠ .unsent := by
  rw [upload_of_move h]
  split
  · rintro ⟨⟩
  · exact hr

/-- Nothing comes of files that are refused. -/
theorem run_of_refused {e : InputError} (hsubmit : l.submit files = .error e)
    (h : (start now l files coming).run period moves = some r) :
    r = ⟨now, .finished l (.error (.input e)), coming, [], none, .unsent, [], []⟩ := by
  rw [start, hsubmit] at h
  exact (eq_nil_of_run_of_isOver ⟨l, _, rfl⟩ h).2

/-- **An update sends its image once, and after that only queries.** -/
theorem sent_of_run (h : (start now l files coming).run period moves = some r) :
    r.sent files =
      l.uploads files ++ List.replicate r.answers.length (.call .queryVerdict) := by
  cases hsubmit : l.submit files with
  | error e =>
      rw [run_of_refused hsubmit h, Lifecycle.uploads, hsubmit]
      rfl
  | ok started =>
      obtain ⟨image, events, l'⟩ := started
      obtain ⟨hidle, rfl, -, -⟩ := Lifecycle.submit_eq_ok hsubmit
      have hsent : r.upload ≠ .unsent := by
        refine run_induction (fun hr hmove => upload_ne_unsent_of_move hmove hr) h ?_
        rw [start_of_idle hidle]
        rintro ⟨⟩
      rw [sent, Lifecycle.uploads, hsubmit]
      cases hupload : r.upload with
      | unsent => exact absurd hupload hsent
      | inFlight | ended => rfl

end UpdateRun

/-! ### How an operation can end -/

/-- **How an operation under way can end**: what it sends from here on, the session that it leaves,
and what it gives. A call may be answered by anything, an update may go as any run of its loop goes,
and after each of them polling has done some of its work. -/
inductive Suspended.Ends {α : Type} : Suspended α → List Sent → Session → α → Prop
  | done (s : Session) (a : α) : Ends (.done s a) [] s a
  | call {c : Call} {s t u : Session} {resume : Except Failure c.Answer → Session → Suspended α}
      {sent : List Sent} {a : α} (answer : Except Failure c.Answer) (polled : t.still = s.still)
      (rest : Ends (resume answer t) sent u a) : Ends (.call c s resume) (.call c :: sent) u a
  | update {files : List FirmwareImage} {s t u : Session}
      {resume : Except Failure UpdatePhase → Session → Suspended α} {sent : List Sent} {a : α}
      {now period : Nat} {coming : List UploadProgress} {moves : List UpdateMove} {r : UpdateRun}
      {l : Lifecycle} {result : Except Failure UpdatePhase}
      (run : (UpdateRun.start now s.lifecycle files coming).run period moves = some r)
      (finished : r.turn = .finished l result) (polled : t.still = { s.still with lifecycle := l })
      (rest : Ends (resume result t) sent u a) :
      Ends (.update files s resume) (r.sent files ++ sent) u a

/-- A command, the session as the command finds it, and what came of it. -/
structure SessionRound where
  command : SessionCommand
  before : Session
  sent : List Sent
  after : Session
  result : command.Result

/-- Whether the command of a round can be carried out in this way. -/
def SessionRound.IsPossible (r : SessionRound) : Prop :=
  (r.command.operation r.before).Ends r.sent r.after r.result

/-- **What can happen to a session**: some rounds, with polling before and after each of them. -/
inductive Session.Run : Session → List SessionRound → Session → Prop
  | polled {s t : Session} (polled : t.still = s.still) : Run s [] t
  | round {s t : Session} {rounds : List SessionRound} (r : SessionRound)
      (polled : r.before.still = s.still) (possible : r.IsPossible) (rest : Run r.after rounds t) :
      Run s (r :: rounds) t

/-- Polling may have gone on before a run. -/
theorem Session.Run.of_polled {s t u : Session} {rounds : List SessionRound}
    (polled : t.still = s.still) (h : t.Run rounds u) : s.Run rounds u := by
  cases h with
  | polled polled' => exact .polled (polled'.trans polled)
  | round r polled' possible rest => exact .round r (polled'.trans polled) possible rest

/-! ### Against the clock -/

namespace Timeline

variable {σ : Type} (D : DeviceModel σ)

/-- **An operation against the clock ends as it can**, and has sent what it then sends. -/
theorem runSuspended_ends {α : Type} (p : Suspended α) (w : Timeline σ) :
    ∃ sent, p.Ends sent (runSuspended D p w).1.session (runSuspended D p w).2 ∧
      (runSuspended D p w).1.sent = sent.reverse ++ w.sent := by
  induction p generalizing w with
  | done s a => exact ⟨[], .done s a, rfl⟩
  | call c s resume ih =>
      obtain ⟨sent, hends, hsent⟩ := ih (call D c { w with session := s }).2
        (call D c { w with session := s }).1.session (call D c { w with session := s }).1
      refine ⟨.call c :: sent, .call _ (call_still D c _) hends, hsent.trans ?_⟩
      rw [call_sent, List.reverse_cons, List.append_assoc]
      rfl
  | update files s resume ih =>
      obtain ⟨coming, moves, r, l, hrun, hover, -, hasked, hlifecycle⟩ :=
        update_isRun D files { w with session := s }
      have hstill := update_still D files { w with session := s }
      rw [hlifecycle] at hstill
      obtain ⟨sent, hends, hsent⟩ := ih (update D files { w with session := s }).2.2
        (update D files { w with session := s }).1.session
        (update D files { w with session := s }).1
      refine ⟨r.sent files ++ sent, .update hrun hover hstill hends, hsent.trans ?_⟩
      have honce : (s.lifecycle.uploads files).reverse = s.lifecycle.uploads files := by
        rw [Lifecycle.uploads]
        split <;> rfl
      rw [UpdateRun.sent_of_run hrun, List.reverse_append, List.reverse_append, honce,
        List.reverse_replicate, List.append_assoc, List.append_assoc]
      exact congrArg (sent.reverse ++ ·) hasked

/-- The command of a step, if it is one. -/
def commandOf? : SessionStep → Option SessionCommand
  | .wait _ => none
  | .command x => some x

/-- **Some steps against the clock are a run**, in which the commands are those of the steps, and
all that has been sent was sent in its rounds. -/
theorem after_run (w : Timeline σ) (steps : List SessionStep) :
    ∃ rounds, w.session.Run rounds (w.after D steps).session ∧
      rounds.map (·.command) = steps.filterMap commandOf? ∧
      (w.after D steps).sent = (rounds.flatMap (·.sent)).reverse ++ w.sent := by
  induction steps generalizing w with
  | nil => exact ⟨[], .polled rfl, rfl, rfl⟩
  | cons step steps ih =>
      obtain ⟨rounds, hrun, hcommands, hsent⟩ := ih (w.step D step).1
      cases step with
      | wait ms =>
          have hstill : (w.advance D ms).session.still = w.session.still :=
            (background_still D _ _ _).trans (sleepUntil_still D _ w)
          have hnothing : (w.advance D ms).sent = w.sent :=
            (background_sent D _ _ _).trans (sleepUntil_sent D _ w)
          exact ⟨rounds, .of_polled hstill hrun, hcommands, hsent.trans (by rw [step, hnothing])⟩
      | command x =>
          obtain ⟨sent, hends, hrest⟩ := runSuspended_ends D (x.operation w.session) w
          let r : SessionRound := ⟨x, w.session, sent,
            (runSuspended D (x.operation w.session) w).1.session,
            (runSuspended D (x.operation w.session) w).2⟩
          have hstill : (w.step D (.command x)).1.session.still = r.after.still :=
            background_still D _ _ _
          have hlater : (w.step D (.command x)).1.sent = sent.reverse ++ w.sent :=
            (background_sent D _ _ _).trans hrest
          refine ⟨r :: rounds, .round r rfl hends (.of_polled hstill hrun), ?_, ?_⟩
          · rw [List.map_cons, hcommands]
            rfl
          · refine hsent.trans ?_
            rw [hlater, List.flatMap_cons, List.reverse_append, List.append_assoc]

end Timeline

end FanControl
