import FanControl.Proofs.Form
import FanControl.Proofs.Session.Operations
import FanControl.Proofs.Session.Rounds

/-!
# What a session writes to its device

A device is written to by five calls and by the upload of an image. **Each write is the doing of one
command**: of a save, of the erasure of a slot, of credentials or of an update, and of the command
that applies the panel on screen. Everything else a session does, of its own accord or on command,
only asks.

What a command writes, `SessionCommand.writes`, is known as soon as it is given: it depends on the
forms, the selected slot, the panel on screen and the state of the update at that moment, and
neither on what the device answers nor on what polling does meanwhile. So a write that fails is not
made again. A command that is refused, `SessionCommand.refusal?`, sends nothing at all.

The proof goes along the operations. `Suspended.Writes` says that an operation under way writes the
same on each of its branches, and it is put together like the operations are.

## Main results

* `Suspended.Ends.writes`: however an operation ends, it has written what it writes;
* `SessionCommand.operation_writes`: what each command writes;
* `Session.writes_on_command`: what a session writes.
-/

namespace FanControl

/-- Whether what was sent may change what the device remembers. -/
def Sent.isWrite : Sent → Bool
  | call c => c.isWrite
  | upload _ => true

/-! ### What is to be written -/

/-- The call that saves a panel, with what its form stands for. -/
def Session.save (s : Session) : Mode → Call
  | .manual => .saveManual s.manualForm.toSetting
  | .auto => .saveAuto s.autoForm.toSetting
  | .scheduled => .saveSlot (s.slotForm.toSlot s.selectedSlot)

namespace SessionCommand

/-- What is wrong with a command in a session, if it is refused. -/
def refusal? (s : Session) : SessionCommand → Option InputError
  | applyMode => if s.dashboard.panel.visible.isNone then some .noModeSelected else none
  | connectWifi ssid password _ =>
    if ssid = "" then some (.emptyField "SSID")
    else if password = "" then some (.emptyField "Password")
    else none
  | updateFirmware files =>
    match s.lifecycle.submit files with
    | .error e => some e
    | .ok _ => none
  | _ => none

/-- What a command writes in a session. -/
def writes (s : Session) : SessionCommand → List Sent
  | saveManual => [.call (s.save .manual)]
  | saveAuto => [.call (s.save .auto)]
  | saveSlot => [.call (s.save .scheduled)]
  | eraseSlot => [.call (.eraseSlot s.selectedSlot)]
  | applyMode => s.dashboard.panel.visible.toList.map fun panel => .call (s.save panel)
  | connectWifi ssid password timestamp =>
    if ssid = "" ∨ password = "" then [] else [.call (.connectWifi ⟨ssid, password, timestamp⟩)]
  | updateFirmware files => s.lifecycle.uploads files
  | start | stop | selectPanel _ | selectSlot _ | editManual _ | editAuto _ | editSlot _
  | loadManual | loadAuto | loadSlot | resetUpdate | wifiStatus => []

/-- Whether a command may write at all. -/
def mayWrite : SessionCommand → Bool
  | saveManual | saveAuto | saveSlot | eraseSlot | applyMode | connectWifi .. | updateFirmware _ =>
    true
  | start | stop | selectPanel _ | selectSlot _ | editManual _ | editAuto _ | editSlot _
  | loadManual | loadAuto | loadSlot | resetUpdate | wifiStatus => false

/-- The failure of a command, if it has failed. -/
def failure? : (x : SessionCommand) → x.Result → Option Failure
  | loadManual, .error e | saveManual, .error e | loadAuto, .error e | saveAuto, .error e
  | loadSlot, .error e | saveSlot, .error e | eraseSlot, .error e | applyMode, .error e
  | updateFirmware _, .error e | connectWifi .., .error e | wifiStatus, .error e => some e
  | _, _ => none

end SessionCommand

/-! ### What an operation writes -/

/-- **An operation under way that writes the same on each of its branches.** -/
inductive Suspended.Writes {α : Type} : Suspended α → List Sent → Prop
  | done (s : Session) (a : α) : Writes (.done s a) []
  | call {c : Call} {s : Session} {resume : Except Failure c.Answer → Session → Suspended α}
      {l : List Sent} (rest : ∀ answer t, Writes (resume answer t) l) :
      Writes (.call c s resume) ([Sent.call c].filter Sent.isWrite ++ l)
  | update {files : List FirmwareImage} {s : Session}
      {resume : Except Failure UpdatePhase → Session → Suspended α} {l : List Sent}
      (rest : ∀ result t, Writes (resume result t) l) :
      Writes (.update files s resume) (s.lifecycle.uploads files ++ l)

/-- An image is a write. -/
theorem Lifecycle.filter_uploads (l : Lifecycle) (files : List FirmwareImage) :
    (l.uploads files).filter Sent.isWrite = l.uploads files := by
  rw [uploads]
  split <;> rfl

/-- **However an operation ends, it has written what it writes.** -/
theorem Suspended.Ends.writes {α : Type} {p : Suspended α} {sent l : List Sent} {s : Session}
    {a : α} (h : p.Ends sent s a) (hp : p.Writes l) : sent.filter Sent.isWrite = l := by
  induction h generalizing l with
  | done s a =>
      cases hp
      rfl
  | call answer polled _ ih =>
      cases hp with
      | call rest => exact (List.filter_append [_] _).trans (congrArg _ (ih (rest answer _)))
  | update run finished polled _ ih =>
      cases hp with
      | update rest =>
          have hqueries (n : Nat) :
              (List.replicate n (Sent.call .queryVerdict)).filter Sent.isWrite = [] :=
            List.filter_replicate_of_neg Bool.false_ne_true
          rw [UpdateRun.sent_of_run run, List.filter_append, List.filter_append, hqueries,
            List.append_nil, Lifecycle.filter_uploads, ih (rest _ _)]

/-- One operation after another writes what both write. -/
theorem Suspended.Writes.bind {α β : Type} {p : Suspended α} {f : α → Session → Suspended β}
    {l m : List Sent} (hp : p.Writes l) (hf : ∀ a s, (f a s).Writes m) :
    (p.bind f).Writes (l ++ m) := by
  induction hp with
  | done s a => exact hf a s
  | call _ ih =>
      rw [List.append_assoc]
      exact .call ih
  | update _ ih =>
      rw [List.append_assoc]
      exact .update ih

/-! ### Operations that only ask -/

/-- An operation that makes no update and only calls that ask. -/
def Limits.silent : Limits := ⟨fun _ => True, fun x => x.isWrite = false, False⟩

/-- Starting and reloading only ask. -/
theorem Limits.silent_allowsReload : silent.AllowsReload where
  forms _ _ := trivial
  note _ _ := trivial
  stop _ := trivial
  start _ := trivial
  reads _ h := h
  clear _ := trivial
  lifecycle _ _ := trivial

/-- Starting only asks. -/
theorem Limits.silent_allowsStart : silent.AllowsStart := silent_allowsReload.toAllowsStart

/-- **What only asks writes nothing.** -/
theorem Suspended.Within.writes {α : Type} {p : Suspended α} (h : p.Within .silent) :
    p.Writes [] := by
  induction h with
  | done => exact .done _ _
  | @call x allowed s _ p _ ih =>
      have hasks : [Sent.call x].filter Sent.isWrite = [] := by
        simp [Sent.isWrite, show x.isWrite = false from allowed]
      have hwrites := Suspended.Writes.call (s := s) fun answer t => ih answer t trivial
      rwa [hasks] at hwrites
  | update allowed => exact allowed.elim

/-- An operation that only asks writes nothing in any session. -/
theorem Operation.Within.writes {α : Type} {op : Operation α} (h : op.Within .silent)
    (s : Session) : (op s).Writes [] :=
  Suspended.Within.writes (h s trivial)

/-! ### Operations that write -/

namespace Session

/-- **An operation that ends when its one call is answered** writes that call, if it is one that
writes. -/
theorem writes_call {α : Type} (c : Call) (hc : c.isWrite = true) {s : Session}
    {resume : Except Failure c.Answer → Session → Suspended α}
    (hok : ∀ x t, ∃ t' a, resume (.ok x) t = .done t' a)
    (herror : ∀ e t, ∃ t' a, resume (.error e) t = .done t' a) :
    (Suspended.call c s resume).Writes [.call c] := by
  have hwrite : [Sent.call c].filter Sent.isWrite = [.call c] := by simp [Sent.isWrite, hc]
  have hrest (answer : Except Failure c.Answer) (t : Session) : (resume answer t).Writes [] := by
    cases answer with
    | ok x =>
        obtain ⟨t', a, hdone⟩ := hok x t
        rw [hdone]
        exact .done t' a
    | error e =>
        obtain ⟨t', a, hdone⟩ := herror e t
        rw [hdone]
        exact .done t' a
  have hwrites := Suspended.Writes.call (s := s) hrest
  rwa [hwrite] at hwrites

variable (s : Session)

theorem saveManual_writes : (saveManual s).Writes [.call (s.save .manual)] :=
  writes_call _ rfl (fun _ _ => ⟨_, _, rfl⟩) fun _ _ => ⟨_, _, rfl⟩

theorem saveAuto_writes : (saveAuto s).Writes [.call (s.save .auto)] :=
  writes_call _ rfl (fun _ _ => ⟨_, _, rfl⟩) fun _ _ => ⟨_, _, rfl⟩

theorem saveSlot_writes : (saveSlot s).Writes [.call (s.save .scheduled)] :=
  writes_call _ rfl (fun _ _ => ⟨_, _, rfl⟩) fun _ _ => ⟨_, _, rfl⟩

theorem eraseSlot_writes : (eraseSlot s).Writes [.call (.eraseSlot s.selectedSlot)] :=
  writes_call _ rfl (fun _ _ => ⟨_, _, rfl⟩) fun _ _ => ⟨_, _, rfl⟩

/-- The panel on screen is saved, if there is one. -/
theorem applyMode_writes : (applyMode s).Writes (SessionCommand.applyMode.writes s) := by
  rw [SessionCommand.writes]
  cases hpanel : s.dashboard.panel.visible with
  | none =>
      simp only [applyMode, bind, Operation.get, Suspended.bind, hpanel]
      exact .done _ _
  | some panel =>
      simp only [applyMode, bind, Operation.get, Suspended.bind, hpanel]
      cases panel with
      | manual => exact (saveManual_writes _).bind fun _ _ => .done _ _
      | auto => exact (saveAuto_writes _).bind fun _ _ => .done _ _
      | scheduled => exact (saveSlot_writes _).bind fun _ _ => .done _ _

/-- Credentials are sent if neither of them is empty. -/
theorem connectWifi_writes (ssid password : String) (timestamp : Int64) :
    (connectWifi ssid password timestamp s).Writes
      ((SessionCommand.connectWifi ssid password timestamp).writes s) := by
  rw [connectWifi, SessionCommand.writes]
  split
  · next hssid =>
    rw [if_pos (.inl hssid)]
    exact .done _ _
  · next hssid =>
    split
    · next hpassword =>
      rw [if_pos (.inr hpassword)]
      exact .done _ _
    · next hpassword =>
      rw [if_neg (not_or.mpr ⟨hssid, hpassword⟩)]
      exact writes_call _ rfl (fun _ _ => ⟨_, _, rfl⟩) fun _ _ => ⟨_, _, rfl⟩

/-- An update sends its image, and the reload at its end only asks. -/
theorem updateFirmware_writes (files : List FirmwareImage) :
    (updateFirmware files s).Writes (s.lifecycle.uploads files) := by
  rw [← List.append_nil (s.lifecycle.uploads files)]
  refine .update fun result t => ?_
  cases result with
  | error e => cases e <;> exact .done _ _
  | ok phase =>
      cases phase with
      | succeeded =>
          exact ((reload_within Limits.silent_allowsReload).writes t).bind fun _ _ => .done _ _
      | idle | uploading | polling | rebooting | failed => exact .done _ _

end Session

namespace SessionCommand

open Session

/-- **What each command writes.** -/
theorem operation_writes (x : SessionCommand) (s : Session) :
    (x.operation s).Writes (x.writes s) := by
  cases x with
  | start => exact (start_within Limits.silent_allowsStart).writes s
  | stop | selectPanel _ | selectSlot _ | editManual _ | editAuto _ | editSlot _ | resetUpdate =>
      exact .done _ _
  | loadManual => exact (loadManual_within Limits.silent_allowsStart).writes s
  | saveManual => exact saveManual_writes s
  | loadAuto => exact (loadAuto_within Limits.silent_allowsStart).writes s
  | saveAuto => exact saveAuto_writes s
  | loadSlot => exact (loadSlot_within Limits.silent_allowsStart).writes s
  | saveSlot => exact saveSlot_writes s
  | eraseSlot => exact eraseSlot_writes s
  | applyMode => exact applyMode_writes s
  | updateFirmware files => exact updateFirmware_writes s files
  | connectWifi ssid password timestamp => exact connectWifi_writes s ssid password timestamp
  | wifiStatus => exact (wifiStatus_within Limits.silent_allowsStart).writes s

/-- **A command that may write does so once, unless it is refused**, and no other writes. -/
theorem length_writes (x : SessionCommand) (s : Session) :
    (x.writes s).length = if x.mayWrite && (x.refusal? s).isNone then 1 else 0 := by
  cases x with
  | applyMode =>
      rw [writes, refusal?]
      cases s.dashboard.panel.visible <;> rfl
  | connectWifi ssid password timestamp =>
      rw [writes, refusal?]
      by_cases hssid : ssid = ""
      · simp [hssid]
      · by_cases hpassword : password = "" <;> simp [mayWrite, hssid, hpassword]
  | updateFirmware files =>
      rw [writes, refusal?, Lifecycle.uploads]
      cases s.lifecycle.submit files <;> rfl
  | _ => rfl

/-- **A command that is refused sends nothing**, and says why. -/
theorem ends_of_refused {x : SessionCommand} {s t : Session} {sent : List Sent} {a : x.Result}
    {e : InputError} (h : x.refusal? s = some e) (hends : (x.operation s).Ends sent t a) :
    sent = [] ∧ x.failure? a = some (.input e) := by
  cases x with
  | applyMode =>
      simp only [refusal?] at h
      split at h
      · next hpanel =>
        obtain rfl := Option.some.inj h
        rw [Option.isNone_iff_eq_none] at hpanel
        simp only [operation, Session.applyMode, bind, Operation.get, Suspended.bind,
          hpanel] at hends
        cases hends
        exact ⟨rfl, rfl⟩
      · cases h
  | connectWifi ssid password timestamp =>
      simp only [operation, Session.connectWifi] at hends
      simp only [refusal?] at h
      split at h
      · next hssid =>
        obtain rfl := Option.some.inj h
        rw [if_pos hssid] at hends
        cases hends
        exact ⟨rfl, rfl⟩
      · next hssid =>
        split at h
        · next hpassword =>
          obtain rfl := Option.some.inj h
          rw [if_neg hssid, if_pos hpassword] at hends
          cases hends
          exact ⟨rfl, rfl⟩
        · cases h
  | updateFirmware files =>
      simp only [refusal?] at h
      split at h
      · next e' hsubmit =>
        obtain rfl := Option.some.inj h
        cases hends with
        | update run finished polled rest =>
            obtain rfl := UpdateRun.run_of_refused hsubmit run
            obtain ⟨rfl, rfl⟩ := Turn.finished.inj finished
            cases rest
            exact ⟨rfl, rfl⟩
      · cases h
  | _ => cases h

end SessionCommand

/-! ### What a session writes -/

/-- A call that saves a setting within its range, and a slot as the selected one. -/
def Call.SavesInRange (selected : SlotId) : Call → Prop
  | .saveManual setting => setting.pwm ≤ 100
  | .saveSlot slot => slot.InRange ∧ slot.id = selected
  | _ => True

/-- What a panel saves is in range. -/
theorem Session.save_inRange (s : Session) (panel : Mode) :
    (s.save panel).SavesInRange s.selectedSlot := by
  cases panel with
  | manual => exact percent_le _
  | auto => trivial
  | scheduled => exact ⟨s.slotForm.inRange_toSlot _, rfl⟩

/-- **What a round of a session writes.** It is what its command writes in the session that it
finds, and a command that is refused there sends nothing and fails for that reason. -/
theorem SessionRound.IsPossible.writes {r : SessionRound} (h : r.IsPossible) :
    r.sent.filter Sent.isWrite = r.command.writes r.before ∧
      ∀ e, r.command.refusal? r.before = some e →
        r.sent = [] ∧ r.command.failure? r.result = some (.input e) :=
  ⟨Suspended.Ends.writes h (r.command.operation_writes r.before),
    fun _ hrefused => SessionCommand.ends_of_refused hrefused h⟩

/-- The rounds of a run are possible. -/
theorem Session.Run.isPossible {s t : Session} {rounds : List SessionRound} (h : s.Run rounds t) :
    ∀ r ∈ rounds, r.IsPossible := by
  induction h with
  | polled => exact fun _ hr => absurd hr List.not_mem_nil
  | round r _ possible _ ih => exact List.forall_mem_cons.mpr ⟨possible, ih⟩

/-- The writes of a run are those of its commands. -/
theorem Session.Run.filter_sent {s t : Session} {rounds : List SessionRound} (h : s.Run rounds t) :
    (rounds.flatMap (·.sent)).filter Sent.isWrite =
      rounds.flatMap fun r => r.command.writes r.before := by
  induction h with
  | polled => rfl
  | round r _ possible _ ih =>
      rw [List.flatMap_cons, List.filter_append, possible.writes.1, ih, List.flatMap_cons]

/-- **A device is written to on command only.** However a session goes, with polling anywhere in
it and whatever the device answers, the writes that it sends are those of its commands, one after
another. Each command writes what it stands for in the session that it finds, which is one write if
it may write and is not refused, and else none; one that is refused sends nothing at all and fails
with the reason. What a panel saves is in range, and a slot is saved as the selected one.

So it is against a clock, where all that has been sent was sent on the commands of the steps. -/
theorem Session.writes_on_command :
    (∀ (s t : Session) (rounds : List SessionRound), s.Run rounds t →
      (rounds.flatMap (·.sent)).filter Sent.isWrite =
          rounds.flatMap (fun r => r.command.writes r.before) ∧
        ∀ r ∈ rounds,
          (r.command.writes r.before).length =
            (if r.command.mayWrite && (r.command.refusal? r.before).isNone then 1 else 0) ∧
          (∀ panel, (r.before.save panel).SavesInRange r.before.selectedSlot) ∧
          ∀ e, r.command.refusal? r.before = some e →
            r.sent = [] ∧ r.command.failure? r.result = some (.input e)) ∧
    ∀ (σ : Type) (D : DeviceModel σ) (w : Timeline σ) (steps : List SessionStep),
      ∃ rounds, w.session.Run rounds (w.after D steps).session ∧
        rounds.map (·.command) = steps.filterMap Timeline.commandOf? ∧
        (w.after D steps).sent = (rounds.flatMap (·.sent)).reverse ++ w.sent := by
  refine ⟨fun s t rounds h => ⟨h.filter_sent, fun r hr => ?_⟩,
    fun σ D w steps => w.after_run D steps⟩
  exact ⟨r.command.length_writes r.before, r.before.save_inRange, (h.isPossible r hr).writes.2⟩

/-- Nothing is applied while no panel is on screen. Once polling has brought one up it is saved,
with its form held within the range, and not again when the device does not answer. -/
theorem Session.writes_on_command_unanswered :
    let s := Session.new .default
    let noted := { s with dashboard := s.dashboard.setModeNotice .selectModeFirst }
    let edited := { noted with manualForm := ⟨"250"⟩ }
    let polled := { edited with
      dashboard := edited.dashboard.applyStatus ⟨none, none, some (.known .manual), none⟩ }
    let e := Failure.unanswered Route.setManual.path
    let saving := { polled with
      dashboard := (polled.dashboard.setModeNotice (.applyingMode .manual)).setNotice
        .manual .saving }
    let failed := { saving with dashboard := saving.dashboard.setNotice .manual .pwmFailed }
    let rounds : List SessionRound := [
      ⟨.applyMode, s, [], noted, .error (.input .noModeSelected)⟩,
      ⟨.editManual ⟨"250"⟩, noted, [], edited, ()⟩,
      ⟨.applyMode, polled, [.call (polled.save .manual)], failed, .error e⟩]
    s.Run rounds failed ∧
      (rounds.flatMap (·.sent)).filter Sent.isWrite = [.call (.saveManual ⟨100⟩)] := by
  intro s noted edited polled e saving failed rounds
  have hsetting : (⟨"250"⟩ : ManualForm).toSetting = ⟨100⟩ := by decide
  have hsave : (SessionCommand.applyMode.operation polled).Ends [.call (polled.save .manual)]
      failed (.error e) := by
    refine Suspended.Ends.call (s := saving) (t := saving) (Except.error e) rfl ?_
    exact .done failed _
  have hrun : s.Run rounds failed :=
    .round _ rfl (.done _ _) <| .round _ rfl (.done _ _) <| .round _ rfl hsave (.polled rfl)
  refine ⟨hrun, (writes_on_command.1 s failed rounds hrun).1.trans ?_⟩
  exact congrArg (fun setting => [Sent.call (.saveManual setting)]) hsetting

end FanControl
