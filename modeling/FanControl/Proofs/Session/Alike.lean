import FanControl.Session.Observation

/-!
# Sessions that cannot be told apart

Not all of a session is seen: the counts of its requests, the firmware that an update was told
about, and how often a status was published are not. Two sessions are `Alike` if they agree on what
is seen, now and later; so of the published status it only counts whether the reader has still to
see it, and what it is then.

An operation depends on its session only through what alike sessions agree on. This is said of
programs that can be suspended: `Suspended.Alike` holds of two of them that make the same calls
and leave alike sessions behind, however the calls are answered and whatever alike sessions they
are resumed with.

## Main results

* `Session.Alike.reconcile`, `Session.Alike.deliver`: publishing and reading a status;
* `SessionCommand.respects`: every command makes alike sessions do the same.
-/

namespace FanControl

/-- Two feeds whose readers will see the same: there is no reader, or the reader has seen all, or
it has still to see the same status. -/
inductive StatusFeed.Alike : StatusFeed → StatusFeed → Prop
  | closed {f g : StatusFeed} (left : f.seen = none) (right : g.seen = none) : Alike f g
  | caughtUp {f g : StatusFeed} (left : f.seen = some f.version)
      (right : g.seen = some g.version) : Alike f g
  | behind {f g : StatusFeed} {m n : Nat} (left : f.seen = some m) (right : g.seen = some n)
      (unseen : m < f.version) (unseen' : n < g.version) (latest : f.latest = g.latest) : Alike f g

/-- Two lifecycles that go on alike, with a countdown from `start`. -/
structure Lifecycle.Alike (start : Nat) (l m : Lifecycle) : Prop where
  starts : l.start = start ∧ m.start = start
  phase : l.phase = m.phase
  countdown : l.countdown = m.countdown

/-- Two sessions with a configuration that cannot be told apart, now or later. -/
structure Session.Alike (c : Configuration) (s t : Session) : Prop where
  configuration : s.configuration = c ∧ t.configuration = c
  dashboard : s.dashboard = t.dashboard
  manualForm : s.manualForm = t.manualForm
  autoForm : s.autoForm = t.autoForm
  slotForm : s.slotForm = t.slotForm
  selectedSlot : s.selectedSlot = t.selectedSlot
  lifecycle : s.lifecycle.Alike (atLeastOne c.countdown.toNat) t.lifecycle
  loop : s.poller.loop = t.poller.loop
  feed : s.feed.Alike t.feed

/-! ### Feeds -/

namespace StatusFeed.Alike

variable {f g : StatusFeed}

/-- Two feeds with readers that have just begun are alike: neither of them has anything to see. -/
theorem subscribe (f g : StatusFeed) : f.subscribe.Alike g.subscribe := .caughtUp rfl rfl

/-- Two feeds without readers are alike. -/
theorem unsubscribe (f g : StatusFeed) : f.unsubscribe.Alike g.unsubscribe := .closed rfl rfl

/-- Alike feeds stay alike when the same status is published on both. -/
theorem publish (h : f.Alike g) (status : Status) :
    (f.publish status).Alike (g.publish status) := by
  cases h with
  | closed left right => exact .closed left right
  | caughtUp left right =>
      exact .behind left right (Nat.lt_succ_self _) (Nat.lt_succ_self _) rfl
  | behind left right unseen unseen' latest =>
      exact .behind left right (Nat.lt_succ_of_lt unseen) (Nat.lt_succ_of_lt unseen') rfl

/-- The readers of alike feeds take the same status, and leave alike feeds behind. -/
theorem take (h : f.Alike g) : f.take.1 = g.take.1 ∧ f.take.2.Alike g.take.2 := by
  cases h with
  | closed left right =>
      simp only [StatusFeed.take, left, right]
      exact ⟨trivial, .closed left right⟩
  | caughtUp left right =>
      simp only [StatusFeed.take, left, right, Nat.lt_irrefl, if_false]
      exact ⟨trivial, .caughtUp left right⟩
  | behind left right unseen unseen' latest =>
      simp only [StatusFeed.take, left, right, unseen, unseen', if_true]
      exact ⟨latest, subscribe f g⟩

end StatusFeed.Alike

/-! ### Lifecycles -/

namespace Lifecycle.Alike

variable {start : Nat} {l m : Lifecycle}

/-- A lifecycle is like itself, with the countdown that it begins. -/
theorem of_start (h : l.start = start) : l.Alike start l := ⟨⟨h, h⟩, rfl, rfl⟩

/-- Alike lifecycles take the same files alike, and are the same afterwards. -/
theorem submit (h : l.Alike start m) (files : List FirmwareImage) :
    l.submit files = m.submit files := by
  obtain ⟨⟨hl, hm⟩, hphase, -⟩ := h
  simp only [Lifecycle.submit, hphase, hl, hm]

/-- A reset is done for both of two alike lifecycles or for neither, and leaves them alike. -/
theorem reset (h : l.Alike start m) : l.reset.1 = m.reset.1 ∧ l.reset.2.Alike start m.reset.2 := by
  simp only [Lifecycle.reset, h.phase]
  split
  · exact ⟨rfl, h⟩
  · exact ⟨rfl, h.starts, rfl, rfl⟩

end Lifecycle.Alike

/-! ### Sessions -/

namespace Session.Alike

variable {c : Configuration} {s t : Session}

/-- A session that has done nothing is like itself. -/
theorem new (c : Configuration) : (Session.new c).Alike c (Session.new c) :=
  ⟨⟨rfl, rfl⟩, rfl, rfl, rfl, rfl, rfl, .of_start rfl, rfl, .closed rfl rfl⟩

/-- Alike sessions are seen the same. -/
theorem view (h : s.Alike c t) : s.view = t.view := by
  simp only [Session.view, Poller.isRunning, h.dashboard, h.manualForm, h.autoForm, h.slotForm,
    h.selectedSlot, h.lifecycle.phase, h.loop]

/-- Alike sessions stay alike when their dashboards are changed in the same way. -/
theorem mapDashboard (h : s.Alike c t) (f : Dashboard → Dashboard) :
    Session.Alike c { s with dashboard := f s.dashboard } { t with dashboard := f t.dashboard } :=
  { h with dashboard := congrArg f h.dashboard }

/-- Alike sessions stay alike when their dashboards catch up with what has been published. -/
theorem reconcile (h : s.Alike c t) : s.reconcile.Alike c t.reconcile := by
  obtain ⟨hstatus, hfeed⟩ := h.feed.take
  rw [Session.reconcile, Session.reconcile]
  generalize s.feed.take = x at hstatus hfeed
  generalize t.feed.take = y at hstatus hfeed
  obtain ⟨status, f⟩ := x
  obtain ⟨status', g⟩ := y
  obtain rfl : status = status' := hstatus
  cases status with
  | none => exact { h with feed := hfeed }
  | some status =>
      exact { h.mapDashboard fun d => d.applyStatus status with feed := hfeed }

/-- Alike sessions stay alike when the same answer to a status request comes in. -/
theorem deliver (h : s.Alike c t) (answer : Except Failure Status) :
    (s.deliver answer).Alike c (t.deliver answer) := by
  cases answer with
  | error e => exact h
  | ok status => exact { h with feed := h.feed.publish status }

end Session.Alike

/-! ### Operations -/

/-- Two operations under way that make the same calls and leave alike sessions behind. -/
inductive Suspended.Alike (c : Configuration) {α : Type} : Suspended α → Suspended α → Prop
  | done {s t : Session} (session : s.Alike c t) (a : α) : Alike c (.done s a) (.done t a)
  | call (x : Call) {s t : Session} (session : s.Alike c t)
      {p q : Except Failure x.Answer → Session → Suspended α}
      (resume : ∀ answer s t, s.Alike c t → Alike c (p answer s) (q answer t)) :
      Alike c (.call x s p) (.call x t q)
  | update (files : List FirmwareImage) {s t : Session} (session : s.Alike c t)
      {p q : Except Failure UpdatePhase → Session → Suspended α}
      (resume : ∀ answer s t, s.Alike c t → Alike c (p answer s) (q answer t)) :
      Alike c (.update files s p) (.update files t q)

/-- Operations under way that are alike, each followed by one that goes on alike, are alike as a
whole. -/
theorem Suspended.Alike.bind {c : Configuration} {α β : Type} {p q : Suspended α}
    {f g : α → Session → Suspended β} (h : p.Alike c q)
    (hfg : ∀ a s t, s.Alike c t → (f a s).Alike c (g a t)) : (p.bind f).Alike c (q.bind g) := by
  induction h with
  | done session a => exact hfg a _ _ session
  | call x session _ ih => exact .call x session fun answer s t h => ih answer s t h
  | update files session _ ih => exact .update files session fun answer s t h => ih answer s t h

/-- An operation that makes alike sessions do the same. -/
def Operation.Respects (c : Configuration) {α : Type} (op : Operation α) : Prop :=
  ∀ s t, s.Alike c t → (op s).Alike c (op t)

namespace Operation.Respects

variable {c : Configuration} {α β : Type}

theorem pure (a : α) : Respects c (Pure.pure a : Operation α) := fun _ _ h => .done h a

theorem bind {op : Operation α} {f : α → Operation β} (hop : op.Respects c)
    (hf : ∀ a, (f a).Respects c) : (op >>= f).Respects c :=
  fun s t h => (hop s t h).bind fun a => hf a

/-- Reading the session does no harm if alike sessions go on alike. -/
theorem read {f : Session → Operation β} (hf : ∀ s t, s.Alike c t → f s = f t)
    (hrespects : ∀ s, (f s).Respects c) : (get >>= f).Respects c := by
  intro s t h
  show (f s s).Alike c (f t t)
  rw [← hf s t h]
  exact hrespects s s t h

theorem modify {f : Session → Session} (hf : ∀ s t, s.Alike c t → (f s).Alike c (f t)) :
    (modify f).Respects c :=
  fun s t h => .done (hf s t h) ()

theorem call (x : Call) : (call x).Respects c :=
  fun _ _ h => .call x h fun answer _ _ h => .done h answer

/-- A call may be followed by one operation if it succeeds and by another one if it fails. -/
theorem bindCall {x : Call} {f : Except Failure x.Answer → Operation β}
    (hok : ∀ answer, (f (.ok answer)).Respects c) (herror : ∀ e, (f (.error e)).Respects c) :
    (Operation.call x >>= f).Respects c := by
  refine .bind (.call x) fun answer => ?_
  cases answer with
  | ok answer => exact hok answer
  | error e => exact herror e

theorem update (files : List FirmwareImage) : (update files).Respects c :=
  fun _ _ h => .update files h fun answer _ _ h => .done h answer

end Operation.Respects

namespace Session

open Operation

variable {c : Configuration}

theorem notify_respects (panel : Mode) (notice : Notice) : (notify panel notice).Respects c :=
  .modify fun _ _ h => h.mapDashboard fun d => d.setNotice panel notice

/-- An operation that ends with a notice makes alike sessions do the same. -/
theorem notify_pure_respects {α : Type} (panel : Mode) (notice : Notice) (a : α) :
    (do notify panel notice; return a : Operation α).Respects c :=
  .bind (notify_respects panel notice) fun _ => .pure a

/-- **A save makes alike sessions do the same**: it is a notice, its call, and a notice of how that
came out. -/
theorem save_respects {α : Type} {x : Call} {panel : Mode} {busy saved failed : Notice} {a : α}
    {resume : Except Failure x.Answer → Operation (Except Failure α)}
    (hok : ∀ answer, resume (.ok answer) = do notify panel saved; return .ok a)
    (herror : ∀ e, resume (.error e) = do notify panel failed; return .error e) :
    (do notify panel busy; call x >>= resume).Respects c := by
  refine .bind (notify_respects panel busy) fun _ => .bindCall (fun answer => ?_) fun e => ?_
  · rw [hok]
    exact notify_pure_respects panel saved _
  · rw [herror]
    exact notify_pure_respects panel failed _

theorem loadManual_respects : loadManual.Respects c := by
  refine .bindCall (fun report => ?_) fun _ => .pure _
  exact .bind (.modify fun _ _ h => { h with manualForm := rfl }) fun _ => .pure _

theorem saveManual_respects : saveManual.Respects c :=
  .read (fun s t h => by rw [h.manualForm]) fun _ => save_respects (fun _ => rfl) fun _ => rfl

theorem loadAuto_respects : loadAuto.Respects c := by
  refine .read (fun s t h => by rw [h.autoForm]) fun s =>
    .bindCall (fun report => ?_) fun _ => .pure _
  exact .bind (.modify fun _ _ h => { h with autoForm := rfl }) fun _ => .pure _

theorem saveAuto_respects : saveAuto.Respects c :=
  .read (fun s t h => by rw [h.autoForm]) fun _ => save_respects (fun _ => rfl) fun _ => rfl

theorem loadSlot_respects : loadSlot.Respects c := by
  refine .bind (notify_respects _ _) fun _ s t h => ?_
  -- the type of the answer depends on the slot, so the two sessions have to share it
  obtain ⟨_, _, _, _, _, id, _, _, _⟩ := s
  obtain ⟨_, _, _, _, _, id', _, _, _⟩ := t
  obtain rfl : id = id' := h.selectedSlot
  refine .call (.loadSlot id) h fun answer s t h => ?_
  cases answer with
  | error e => exact notify_pure_respects _ _ _ s t h
  | ok slot =>
      have hfill : Respects c (modify fun s => { s with slotForm := .ofSlot slot }) :=
        .modify fun _ _ h => { h with slotForm := rfl }
      exact hfill.bind (fun _ => notify_pure_respects _ _ _) s t h

theorem saveSlot_respects : saveSlot.Respects c :=
  .read (fun s t h => by rw [h.slotForm, h.selectedSlot]) fun _ =>
    save_respects (fun _ => rfl) fun _ => rfl

theorem eraseSlot_respects : eraseSlot.Respects c := by
  refine .bind (notify_respects _ _) fun _ s t h => ?_
  obtain ⟨_, _, _, _, _, id, _, _, _⟩ := s
  obtain ⟨_, _, _, _, _, id', _, _, _⟩ := t
  obtain rfl : id = id' := h.selectedSlot
  refine .call (.eraseSlot id) h fun answer s t h => ?_
  cases answer with
  | error e => exact notify_pure_respects _ _ _ s t h
  | ok _ =>
      have hclear : Respects c
          (modify fun s => { s with slotForm := { s.slotForm with active := false } }) :=
        .modify fun _ _ h => { h with slotForm := by simp only [h.slotForm] }
      exact hclear.bind (fun _ => notify_pure_respects _ _ _) s t h

theorem applyMode_respects : applyMode.Respects c := by
  refine .read (fun s t h => by rw [h.dashboard]) fun s => ?_
  cases s.dashboard.panel.visible with
  | none =>
      refine .bind (.modify fun _ _ h => ?_) fun _ => .pure _
      exact h.mapDashboard fun d => d.setModeNotice .selectModeFirst
  | some mode =>
      refine .bind (.modify fun _ _ h => ?_) fun _ => ?_
      · exact h.mapDashboard fun d => d.setModeNotice (.applyingMode mode)
      · cases mode with
        | manual => exact .bind saveManual_respects fun _ => .pure _
        | auto => exact .bind saveAuto_respects fun _ => .pure _
        | scheduled => exact .bind saveSlot_respects fun _ => .pure _

theorem stop_respects : stop.Respects c :=
  .modify fun s t h => { h with loop := rfl, feed := .unsubscribe s.feed t.feed }

theorem start_respects : start.Respects c := by
  refine .bind stop_respects fun _ => .bind (.modify fun s t h => ?_) fun _ => ?_
  · refine { h with loop := ?_, feed := .subscribe s.feed t.feed }
    simp only [Poller.start, h.configuration]
  · exact .bind loadManual_respects fun _ => .bind loadAuto_respects fun _ =>
      .bind loadSlot_respects fun _ => .pure _

theorem resetUpdate_respects : resetUpdate.Respects c := by
  intro s t h
  obtain ⟨hdone, hlifecycle⟩ := h.lifecycle.reset
  simp only [resetUpdate]
  generalize s.lifecycle.reset = x at hdone hlifecycle
  generalize t.lifecycle.reset = y at hdone hlifecycle
  obtain ⟨done, l⟩ := x
  obtain ⟨done', m⟩ := y
  obtain rfl : done = done' := hdone
  have hst : Session.Alike c { s with lifecycle := l } { t with lifecycle := m } :=
    { h with lifecycle := hlifecycle }
  exact .done hst done

theorem reload_respects : reload.Respects c := by
  refine .bind stop_respects fun _ => .bind (.modify fun s t h => ?_) fun _ => ?_
  · exact { h with
      dashboard := rfl
      manualForm := rfl
      autoForm := rfl
      slotForm := rfl
      selectedSlot := rfl }
  · exact .bind resetUpdate_respects fun _ => start_respects

theorem updateFirmware_respects (files : List FirmwareImage) :
    (updateFirmware files).Respects c := by
  refine .bind (.update files) fun answer => ?_
  cases answer with
  | error e =>
      cases e with
      | input cause =>
          refine .bind (.modify fun _ _ h => ?_) fun _ => .pure _
          exact h.mapDashboard fun d => d.setUpdateMessage cause.message
      | _ => exact .pure _
  | ok phase =>
      cases phase with
      | succeeded => exact .bind reload_respects fun _ => .pure _
      | _ => exact .pure _

theorem connectWifi_respects (ssid password : String) (timestamp : Int64) :
    (connectWifi ssid password timestamp).Respects c := by
  rw [connectWifi]
  split
  · exact .pure _
  · split
    · exact .pure _
    · exact .bindCall (fun _ => .pure _) fun _ => .pure _

theorem wifiStatus_respects : wifiStatus.Respects c :=
  .bindCall (fun _ => .pure _) fun _ => .pure _

end Session

/-- **Every command makes alike sessions do the same.** -/
theorem SessionCommand.respects {c : Configuration} (x : SessionCommand) :
    x.operation.Respects c := by
  cases x with
  | start => exact Session.start_respects
  | stop => exact Session.stop_respects
  | selectPanel panel => exact .modify fun _ _ h => h.mapDashboard fun d => d.selectPanel panel
  | selectSlot id => exact .modify fun _ _ h => { h with selectedSlot := rfl }
  | editManual form => exact .modify fun _ _ h => { h with manualForm := rfl }
  | editAuto form => exact .modify fun _ _ h => { h with autoForm := rfl }
  | editSlot form => exact .modify fun _ _ h => { h with slotForm := rfl }
  | loadManual => exact Session.loadManual_respects
  | saveManual => exact Session.saveManual_respects
  | loadAuto => exact Session.loadAuto_respects
  | saveAuto => exact Session.saveAuto_respects
  | loadSlot => exact Session.loadSlot_respects
  | saveSlot => exact Session.saveSlot_respects
  | eraseSlot => exact Session.eraseSlot_respects
  | applyMode => exact Session.applyMode_respects
  | updateFirmware files => exact Session.updateFirmware_respects files
  | resetUpdate => exact Session.resetUpdate_respects
  | connectWifi ssid password timestamp =>
      exact Session.connectWifi_respects ssid password timestamp
  | wifiStatus => exact Session.wifiStatus_respects

end FanControl
