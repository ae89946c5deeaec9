import FanControl.Session.Timeline

/-!
# What waiting leaves alone

While an operation waits, polling goes on. It works on the poll loop, on the published status and
on the dashboard, and leaves the rest of the session alone: what is `Session.still`. So the
configuration, the forms, the selected slot and the state of an update are after a wait what they
were before it.

An operation stays `Within` some `Limits`: it makes no other calls than it may, and it keeps a
property of the session between its waits. What its waits keep too, the whole operation `Keeps`.

## Main results

* `Timeline.background_induction`: what each step of polling keeps;
* `Timeline.sleepUntil_still`, `Timeline.call_still`, `Timeline.update_still`: waits, calls and
  updates;
* `Timeline.runSuspended_within`, `Timeline.perform_keeps`: operations.
-/

namespace FanControl

/-- A session without what polling works on. -/
def Session.still (s : Session) : Session :=
  { s with dashboard := .empty, poller := .idle, feed := .empty }

@[simp] theorem Session.reconcile_still (s : Session) : s.reconcile.still = s.still := by
  rw [reconcile]
  split <;> rfl

@[simp] theorem Session.deliver_still (s : Session) (answer : Except Failure Status) :
    (s.deliver answer).still = s.still := by
  cases answer <;> rfl

namespace Timeline

variable {σ : Type} (D : DeviceModel σ)

/-- **What each step of polling keeps, polling keeps**: the steps are those of the poll loop, the
dashboard that catches up, and the clock that goes on. -/
theorem background_induction {P : Timeline σ → Prop} (hstep : ∀ w, P w → P (w.pollStep D))
    (hreconcile : ∀ w, P w → P (w.mapSession Session.reconcile))
    (hnow : ∀ w now, P w → P { w with now }) (time n : Nat) {w : Timeline σ} (h : P w) :
    P (w.background D time n) := by
  have hsteps (n : Nat) {w : Timeline σ} (h : P w) : P (w.pollSteps D n) := by
    induction n generalizing w with
    | zero => exact h
    | succ n ih => exact ih (hstep w h)
  induction n generalizing w with
  | zero => exact h
  | succ n ih =>
      rw [background]
      split
      · exact h
      · dsimp only
        split
        · exact ih (hreconcile _ (hsteps _ (hnow w _ h)))
        · exact h

/-- A step of the poll loop changes nothing of a session but what polling works on. -/
theorem pollStep_still (w : Timeline σ) : (w.pollStep D).session.still = w.session.still := by
  rw [pollStep]
  split
  · rfl
  · rfl
  · split
    · rfl
    · dsimp only
      split
      · exact Session.deliver_still _ _
      · rfl
  · split
    · rfl
    · exact Session.deliver_still _ _

/-- A step of the poll loop sends nothing but its request for the status. -/
theorem pollStep_sent (w : Timeline σ) : (w.pollStep D).sent = w.sent := by
  rw [pollStep]
  split
  · rfl
  · rfl
  · split
    · rfl
    · dsimp only
      split <;> rfl
  · split <;> rfl

/-- What falls due before a time changes nothing of a session but what polling works on. -/
theorem background_still (time n : Nat) (w : Timeline σ) :
    (w.background D time n).session.still = w.session.still :=
  background_induction D (P := fun v => v.session.still = w.session.still)
    (fun v h => (pollStep_still D v).trans h)
    (fun v h => (Session.reconcile_still v.session).trans h)
    (fun _ _ h => h) time n rfl

/-- What falls due before a time sends nothing. -/
theorem background_sent (time n : Nat) (w : Timeline σ) :
    (w.background D time n).sent = w.sent :=
  background_induction D (P := fun v => v.sent = w.sent)
    (fun v h => (pollStep_sent D v).trans h) (fun _ h => h) (fun _ _ h => h) time n rfl

/-- A wait until a time changes nothing of a session but what polling works on. -/
theorem sleepUntil_still (time : Nat) (w : Timeline σ) :
    (w.sleepUntil D time).session.still = w.session.still :=
  background_still D time _ w

/-- A call keeps what waits keep. -/
theorem call_keeps {K : Session → Prop}
    (hwait : ∀ time (w : Timeline σ), K w.session → K (w.sleepUntil D time).session) (x : Call)
    {w : Timeline σ} (h : K w.session) : K (w.call D x).1.session := by
  simp only [call, sleep]
  split
  · exact h
  · exact hwait _ _ h

/-- A call changes nothing of a session but what polling works on. -/
theorem call_still (x : Call) (w : Timeline σ) :
    (w.call D x).1.session.still = w.session.still :=
  call_keeps D (K := fun s => s.still = w.session.still)
    (fun time v h => (sleepUntil_still D time v).trans h) x rfl

/-- A wait until a time sends nothing. -/
theorem sleepUntil_sent (time : Nat) (w : Timeline σ) : (w.sleepUntil D time).sent = w.sent :=
  background_sent D time _ w

/-- A call is sent once. -/
theorem call_sent (x : Call) (w : Timeline σ) : (w.call D x).1.sent = .call x :: w.sent := by
  simp only [call, sleep]
  split
  · rfl
  · exact sleepUntil_sent D _ _

/-! ### Updates -/

section

variable {D} {K : Session → Prop}
  (hwait : ∀ time (w : Timeline σ), K w.session → K (w.sleepUntil D time).session)
  (hevent : ∀ {s : Session} (event : UpdateEvent), K s →
    K { s with dashboard := s.dashboard.applyEvent event })
  (hlifecycle : ∀ {s : Session} (l : Lifecycle), K s → K { s with lifecycle := l })

include hevent in
/-- Events that are shown one by one keep what each of them keeps. -/
theorem showEvents_keeps (events : List UpdateEvent) {w : Timeline σ} (h : K w.session) :
    K (w.showEvents events).session := by
  induction events generalizing w with
  | nil => exact h
  | cons event events ih =>
      exact ih (w := w.mapSession fun s => { s with dashboard := s.dashboard.applyEvent event })
        (hevent event h)

include hwait hevent in
/-- A turn of an update keeps what waits and the events that are shown keep. -/
theorem turn_keeps (loop : UpdateLoop Failure) (x : Stimulus Failure) {w : Timeline σ}
    (h : K w.session) : K (turn D loop x w).1.session := by
  have hshown := showEvents_keeps hevent (loop.take x).1 h
  simp only [turn]
  split
  · exact showEvents_keeps hevent _ (call_keeps D hwait _ hshown)
  · exact hshown

include hwait hevent hlifecycle

/-- **What an update keeps**: it shows its events, waits, and leaves its own state behind. -/
theorem runUpdate_keeps (n : Nat) (u : Updating) {w : Timeline σ} (h : K w.session) :
    K (runUpdate D n u w).1.session := by
  induction n generalizing u w with
  | zero => exact hlifecycle _ h
  | succ n ih =>
      rw [runUpdate]
      dsimp only
      split
      · exact ih _ (hwait _ w h)
      · next x hx =>
        have hturn := turn_keeps hwait hevent (u.catchUp w.now).loop x h
        split
        · next heq =>
          rw [heq] at hturn
          exact hlifecycle _ hturn
        · next heq =>
          rw [heq] at hturn
          exact ih _ hturn
        · next heq =>
          rw [heq] at hturn
          exact ih _ hturn

/-- An update that is submitted keeps what waits, the events that are shown and the state of an
update keep. -/
theorem update_keeps (files : List FirmwareImage) {w : Timeline σ} (h : K w.session) :
    K (update D files w).1.session := by
  rw [update]
  split
  · exact h
  · exact runUpdate_keeps hwait hevent hlifecycle _ _
      (showEvents_keeps hevent _ (w := { w with device := _, sent := _ }) h)

end

/-- An update changes nothing of a session but what polling works on and its own state. -/
theorem update_still (files : List FirmwareImage) (w : Timeline σ) :
    (update D files w).1.session.still =
      { w.session.still with lifecycle := (update D files w).1.session.lifecycle } :=
  update_keeps (K := fun s => s.still = { w.session.still with lifecycle := s.lifecycle })
    (fun time v h => by
      have hstill := sleepUntil_still D time v
      have hlifecycle : v.session.still.lifecycle = (v.sleepUntil D time).session.still.lifecycle :=
        congrArg Session.lifecycle hstill.symm
      exact (hstill.trans h).trans
        (congrArg (fun l => { w.session.still with lifecycle := l }) hlifecycle))
    (fun _ h => h) (fun l h => congrArg (fun s : Session => { s with lifecycle := l }) h) files rfl

end Timeline

/-! ### Operations -/

/-- What an operation may do: the sessions that it may leave at its waits and in the end, the calls
that it may make, and whether it may make an update. -/
structure Limits where
  keeps : Session → Prop
  calls : Call → Prop
  updates : Prop

/-- An operation under way that stays within its limits if others do so while it waits. -/
inductive Suspended.Within (L : Limits) {α : Type} : Suspended α → Prop
  | done {s : Session} (session : L.keeps s) (a : α) : Within L (.done s a)
  | call {x : Call} (allowed : L.calls x) {s : Session} (session : L.keeps s)
      {p : Except Failure x.Answer → Session → Suspended α}
      (resume : ∀ answer s, L.keeps s → Within L (p answer s)) : Within L (.call x s p)
  | update (allowed : L.updates) {files : List FirmwareImage} {s : Session} (session : L.keeps s)
      {p : Except Failure UpdatePhase → Session → Suspended α}
      (resume : ∀ result s, L.keeps s → Within L (p result s)) : Within L (.update files s p)

/-- An operation that stays within its limits. -/
def Operation.Within (L : Limits) {α : Type} (op : Operation α) : Prop :=
  ∀ s, L.keeps s → (op s).Within L

namespace Operation.Within

variable {L : Limits} {α β : Type}

theorem pure (a : α) : Within L (Pure.pure a : Operation α) := fun _ h => .done h a

theorem bind {op : Operation α} {f : α → Operation β} (hop : op.Within L)
    (hf : ∀ a, (f a).Within L) : (op >>= f).Within L := by
  intro s h
  have hbind {p : Suspended α} (hp : p.Within L) : (p.bind fun a s => f a s).Within L := by
    induction hp with
    | done session a => exact hf a _ session
    | call allowed session _ ih => exact .call allowed session ih
    | update allowed session _ ih => exact .update allowed session ih
  exact hbind (hop s h)

theorem get : Within L get := fun _ h => .done h _

theorem modify {f : Session → Session} (hf : ∀ s, L.keeps s → L.keeps (f s)) :
    (modify f).Within L :=
  fun s h => .done (hf s h) ()

theorem call {x : Call} (hx : L.calls x) : (call x).Within L :=
  fun _ h => .call hx h fun answer _ h => .done h answer

/-- A call that is allowed may be followed by one operation if it succeeds and by another one if it
fails. -/
theorem bindCall {x : Call} (hx : L.calls x) {f : Except Failure x.Answer → Operation β}
    (hok : ∀ answer, (f (.ok answer)).Within L) (herror : ∀ e, (f (.error e)).Within L) :
    (Operation.call x >>= f).Within L := by
  refine .bind (.call hx) fun answer => ?_
  cases answer with
  | ok answer => exact hok answer
  | error e => exact herror e

end Operation.Within

/-- An operation that makes no update and keeps a property of the session. -/
def Operation.Keeps (P : Session → Prop) {α : Type} (op : Operation α) : Prop :=
  op.Within ⟨P, fun _ => True, False⟩

namespace Timeline

variable {σ : Type} (D : DeviceModel σ)

/-- **What an operation keeps between its waits, it keeps**, if its calls and its updates do. -/
theorem runSuspended_within {L : Limits}
    (hcall : ∀ x (w : Timeline σ), L.keeps w.session → L.keeps (call D x w).1.session)
    (hupdate : L.updates → ∀ files (w : Timeline σ), L.keeps w.session →
      L.keeps (update D files w).1.session)
    {α : Type} {p : Suspended α} (hp : p.Within L) (w : Timeline σ) :
    L.keeps (runSuspended D p w).1.session := by
  induction hp generalizing w with
  | done session a => exact session
  | call _ session _ ih => exact ih _ _ (hcall _ { w with session := _ } session) _
  | update allowed session _ ih =>
      exact ih _ _ (hupdate allowed _ { w with session := _ } session) _

/-- A whole operation without updates, with all that is due by its end, keeps what it keeps between
its waits, if polling cannot change that. -/
theorem perform_keeps {P : Session → Prop} (hP : ∀ s t, s.still = t.still → P s → P t)
    {α : Type} {op : Operation α} (hop : op.Keeps P) {w : Timeline σ} (h : P w.session) :
    P (w.perform D op).1.session :=
  hP _ _ (background_still D _ _ _).symm <|
    runSuspended_within D (L := ⟨P, fun _ => True, False⟩)
      (fun x w => hP _ _ (call_still D x w).symm) False.elim (hop _ h) w

/-- An operation under way carries its session with it. -/
theorem runSuspended_session {α : Type} (p : Suspended α) (w : Timeline σ) (s : Session) :
    runSuspended D p { w with session := s } = runSuspended D p w := by
  cases p <;> simp only [runSuspended]

/-- What comes after an operation goes on from where that ends. -/
theorem runSuspended_bind {α β : Type} (p : Suspended α) (f : α → Session → Suspended β)
    (w : Timeline σ) :
    runSuspended D (p.bind f) w =
      runSuspended D (f (runSuspended D p w).2 (runSuspended D p w).1.session)
        (runSuspended D p w).1 := by
  induction p generalizing w with
  | done s a => exact (runSuspended_session D (f a s) w s).symm
  | call x s p ih =>
      simp only [Suspended.bind, runSuspended]
      exact ih _ _ _
  | update files s p ih =>
      simp only [Suspended.bind, runSuspended]
      exact ih _ _ _

end Timeline

end FanControl
