import FanControl.Session.Delivery

/-!
# Statuses are delivered in order and once

Whatever order the tasks and the session take, a status that is applied to the dashboard has been
published, after all that were applied before it, and a status that is published has been fetched.
The reader may pass publications over, but **it never misses the last one**: once it has nothing
more to take, the last status is on the dashboard.

This hangs on there being one task of each kind. A call aborts before it spawns, so the only task
alive is always the one that the session has the handle of, `Tasks.Single`; and what is left of a
call leads to both tasks running or to none, `Sound.leads`.

`Delivery.Step` says once what a move can do; every invariant is derived from it.

## Main results

* `Delivery.Sound.step`, `Delivery.Sound.run`: the invariants of a move and of a run;
* `Delivery.Follows.step`: what is applied comes from what is published;
* `Delivery.Sound.frozen`: nothing happens to a session that is stopped;
* `Delivery.Sound.comesToRest`: a reader that is left alone comes to rest;
* `Delivery.delivers_of_run`: all of it, after every run.
-/

namespace FanControl

/-! ### Tasks -/

namespace Tasks

variable {α : Type} {t : Tasks α}

/-- The only task alive is the one that the handle is for. -/
def Single (t : Tasks α) : Prop := t.alive.map Prod.fst = t.handle.toList

/-- Where the only task stands. -/
def only? (t : Tasks α) : Option α := t.alive.head?.map Prod.snd

/-- Of at most one task there is none, without a handle, or the one that the handle names. -/
theorem Single.cases (h : t.Single) :
    (t.handle = .none ∧ t.alive = []) ∨ ∃ id a, t.handle = some id ∧ t.alive = [(id, a)] := by
  obtain ⟨spawned, alive, handle⟩ := t
  cases handle with
  | none => exact .inl ⟨rfl, List.map_eq_nil_iff.mp h⟩
  | some id =>
      obtain ⟨x, rfl, rfl⟩ := List.map_eq_singleton_iff.mp h
      exact .inr ⟨x.1, x.2, rfl, rfl⟩

/-- There are as many tasks as handles. -/
theorem Single.length_alive (h : t.Single) : t.alive.length = t.handle.isSome.toNat := by
  have hlength := congrArg List.length h
  rw [List.length_map] at hlength
  rw [hlength]
  cases t.handle <;> rfl

/-- A task that is spawned while there is no other is the only one. -/
theorem Single.spawn (h : t.Single) (hnone : t.handle = .none) (a : α) :
    (t.spawn a).Single ∧ (t.spawn a).only? = some a := by
  have halive : t.alive = [] := List.map_eq_nil_iff.mp (h.trans (by rw [hnone]; rfl))
  refine ⟨?_, rfl⟩
  rw [Single, Tasks.spawn, halive]
  rfl

/-- Nothing is left of the only task when it is aborted. -/
theorem Single.abort (h : t.Single) :
    t.abort.Single ∧ t.abort.handle = .none ∧ t.abort.only? = .none := by
  obtain ⟨hhandle, halive⟩ | ⟨id, a, hhandle, halive⟩ := h.cases
  · have hkept : t.abort = t := by rw [Tasks.abort, hhandle]
    rw [hkept, only?, halive]
    exact ⟨h, hhandle, rfl⟩
  · have hgone : t.abort = { t with alive := [], handle := .none } := by
      rw [Tasks.abort, hhandle, halive]
      simp
    rw [hgone]
    exact ⟨rfl, rfl, rfl⟩

/-- A task that is alive is the only one. -/
theorem Single.of_at? (h : t.Single) {id : Nat} {a : α} (hat : t.at? id = some a) :
    t.handle = some id ∧ t.alive = [(id, a)] := by
  obtain ⟨hhandle, halive⟩ | ⟨id', a', hhandle, halive⟩ := h.cases
  · rw [at?, halive] at hat
    cases hat
  · rw [at?, halive, List.lookup_cons] at hat
    split at hat
    · next heq =>
      obtain rfl := Option.some.inj hat
      obtain rfl : id = id' := by simpa using heq
      exact ⟨hhandle, halive⟩
    · cases hat

/-- A task that is alive can be told from where the only one stands. -/
theorem Single.only?_of_at? (h : t.Single) {id : Nat} {a : α} (hat : t.at? id = some a) :
    t.only? = some a := by
  rw [only?, (h.of_at? hat).2]
  rfl

/-- The only task stays the only one when it gets elsewhere, and stands there then. -/
theorem Single.set (h : t.Single) {id : Nat} {a : α} (hat : t.at? id = some a) (b : α) :
    (t.set id b).Single ∧ (t.set id b).only? = some b ∧ (t.set id b).at? id = some b := by
  obtain ⟨hhandle, halive⟩ := h.of_at? hat
  have hset : t.set id b = { t with alive := [(id, b)] } := by
    rw [Tasks.set, halive]
    simp
  rw [hset, Single]
  exact ⟨by rw [hhandle]; rfl, rfl, by simp [at?]⟩

end Tasks

/-- What a poll task has got and not published yet. -/
def PollStage.unpublished : PollStage → List Status
  | resting | asking => []
  | answered status => [status]

/-- **A reader that has kept up**: with the status in its hand, the last one that it has taken is
the last one applied. -/
structure StatusReader.KeepsUp (r : StatusReader) (published applied : List Status) : Prop where
  since_le : r.since ≤ r.seen
  seen_le : r.seen ≤ published.length
  last : r.since < r.seen →
    (applied ++ r.held.toList).getLast? = (published.take r.seen).getLast?

namespace Delivery

variable {d d' : Delivery} {m : DeliveryMove} {moves : List DeliveryMove}

/-! ### What a move can do -/

/-- **What a move can do.** -/
inductive Step (d : Delivery) : DeliveryMove → Delivery → Prop
  | call (c : SessionCall) (idle : d.todo = []) :
      Step d (.call c) { d with todo := c.actions, called := some c }
  | act {action : SessionAction} {rest : List SessionAction} (todo : d.todo = action :: rest) :
      Step d .act ({ d with todo := rest }.act action)
  | ask {task : Nat} (stage : d.polls.at? task = some .resting) :
      Step d (.ask task) { d with polls := d.polls.set task .asking, asked := d.asked + 1 }
  | answer {task : Nat} (status : Status) (stage : d.polls.at? task = some .asking) :
      Step d (.answer task (some status)) { d with
        polls := d.polls.set task (.answered status), fetched := d.fetched ++ [status] }
  | miss {task : Nat} (stage : d.polls.at? task = some .asking) :
      Step d (.answer task none) { d with polls := d.polls.set task .resting }
  | publish {task : Nat} {status : Status} (stage : d.polls.at? task = some (.answered status)) :
      Step d (.publish task) { d with
        polls := d.polls.set task .resting
        feed := d.feed.publish status
        published := d.published ++ [status] }
  | take {task since seen : Nat} {status : Status}
      (reader : d.readers.at? task = some ⟨since, seen, none⟩) (unseen : seen < d.feed.version)
      (latest : d.feed.latest = some status) :
      Step d (.take task) { d with
        readers := d.readers.set task ⟨since, d.feed.version, some status⟩ }
  | apply {task since seen : Nat} {status : Status}
      (reader : d.readers.at? task = some ⟨since, seen, some status⟩) :
      Step d (.apply task) { d with
        readers := d.readers.set task ⟨since, seen, none⟩
        dashboard := d.dashboard.applyStatus status
        applied := d.applied ++ [status] }
  | note {m : DashboardMove} (other : m.isReport = false) :
      Step d (.note m) { d with dashboard := d.dashboard.apply m }
  | clear : Step d .clear { d with dashboard := .empty }

/-- A reader takes the latest status when it has not seen it. -/
theorem take_eq_some {f f' : StatusFeed} {seen : Nat} {status : Status}
    (h : { f with seen := some seen }.take = (some status, f')) :
    seen < f.version ∧ f.latest = some status := by
  simp only [StatusFeed.take] at h
  split at h
  · next hseen => exact ⟨hseen, congrArg Prod.fst h⟩
  · cases h

/-- **Every move is one of the steps.** -/
theorem step_of_move (h : d.move? m = some d') : d.Step m d' := by
  cases m with
  | call c =>
      simp only [move?] at h
      split at h
      · next hidle =>
        obtain rfl := Option.some.inj h
        exact .call c (List.isEmpty_iff.mp hidle)
      · cases h
  | act =>
      simp only [move?] at h
      split at h
      · next htodo =>
        obtain rfl := Option.some.inj h
        exact .act htodo
      · cases h
  | ask task =>
      simp only [move?] at h
      split at h
      · next hstage =>
        obtain rfl := Option.some.inj h
        exact .ask hstage
      · cases h
  | answer task report =>
      simp only [move?] at h
      split at h
      · next hstage =>
        obtain rfl := Option.some.inj h
        exact .answer _ hstage
      · next hstage =>
        obtain rfl := Option.some.inj h
        exact .miss hstage
      · cases h
  | publish task =>
      simp only [move?] at h
      split at h
      · next hstage =>
        obtain rfl := Option.some.inj h
        exact .publish hstage
      · cases h
  | take task =>
      simp only [move?] at h
      split at h
      · next hreader =>
        split at h
        · next htake =>
          obtain rfl := Option.some.inj h
          obtain ⟨hunseen, hlatest⟩ := take_eq_some htake
          exact .take hreader hunseen hlatest
        · cases h
      · cases h
  | apply task =>
      simp only [move?] at h
      split at h
      · next hreader =>
        obtain rfl := Option.some.inj h
        exact .apply hreader
      · cases h
  | note m =>
      simp only [move?] at h
      split at h
      · cases h
      · next hother =>
        obtain rfl := Option.some.inj h
        exact .note (Bool.eq_false_iff.mpr hother)
  | clear =>
      obtain rfl := Option.some.inj h
      exact .clear

/-- A run goes on after its first move. -/
theorem run_cons (h : d.move? m = some d') (moves : List DeliveryMove) :
    d.run (m :: moves) = d'.run moves := by
  rw [run, h, Option.bind_some]

/-- A run of some moves and then more is a run of all of them. -/
theorem run_append (h : d.run moves = some d') (more : List DeliveryMove) :
    d.run (moves ++ more) = d'.run more := by
  induction moves generalizing d with
  | nil => rw [← Option.some.inj h, List.nil_append]
  | cons m moves ih =>
      obtain ⟨d₁, hmove, hrun⟩ := Option.bind_eq_some_iff.mp h
      rw [List.cons_append, run_cons hmove, ih hrun]

/-- What every move keeps, every run keeps. -/
theorem run_induction {P : Delivery → Prop}
    (step : ∀ {d d' : Delivery} {m : DeliveryMove}, P d → d.Step m d' → P d')
    (h : d.run moves = some d') (hd : P d) : P d' := by
  induction moves generalizing d with
  | nil => exact Option.some.inj h ▸ hd
  | cons m moves ih =>
      obtain ⟨d₁, hmove, hrun⟩ := Option.bind_eq_some_iff.mp h
      exact ih hrun (step hd (step_of_move hmove))

/-! ### Calls -/

/-- Which of the two tasks run after an action, if it spawns none beside another. -/
def lead? : Bool × Bool → SessionAction → Option (Bool × Bool)
  | (_, reader), .abortPoll => some (false, reader)
  | (poll, _), .abortReader => some (poll, false)
  | (poll, false), .subscribe => some (poll, true)
  | (_, true), .subscribe => none
  | (false, reader), .spawnPoll => some (true, reader)
  | (true, _), .spawnPoll => none

/-- Which of the two tasks a session has a handle of. -/
def handles (d : Delivery) : Bool × Bool := (d.polls.handle.isSome, d.readers.handle.isSome)

/-- Whether the last call was to start. -/
def wantsTasks (d : Delivery) : Bool := d.called == some .start

/-- Whatever runs when a call is made, it leads to what it is made for. -/
theorem lead?_actions (handles : Bool × Bool) (c : SessionCall) :
    c.actions.foldlM lead? handles = some (c == .start, c == .start) := by
  obtain ⟨poll, reader⟩ := handles
  cases c <;> cases poll <;> cases reader <;> rfl

/-- **What an action does to the tasks.** It leaves the session with the handles that it leads to,
and with no task that it has no handle of. -/
theorem tasks_act (hpolls : d.polls.Single) (hreaders : d.readers.Single) {action : SessionAction}
    {handles : Bool × Bool} (hlead : lead? d.handles action = some handles) :
    (d.act action).polls.Single ∧ (d.act action).readers.Single ∧
      (d.act action).handles = handles := by
  cases action with
  | abortPoll =>
      obtain ⟨hsingle, hhandle, -⟩ := hpolls.abort
      refine ⟨hsingle, hreaders, .trans ?_ (Option.some.inj hlead)⟩
      rw [Delivery.handles, act, hhandle]
      rfl
  | abortReader =>
      obtain ⟨hsingle, hhandle, -⟩ := hreaders.abort
      refine ⟨hpolls, hsingle, .trans ?_ (Option.some.inj hlead)⟩
      rw [Delivery.handles, act, hhandle]
      rfl
  | subscribe =>
      rw [Delivery.handles] at hlead
      cases hhandle : d.readers.handle with
      | some id => simp [hhandle, lead?] at hlead
      | none =>
          rw [hhandle] at hlead
          exact ⟨hpolls, (hreaders.spawn hhandle _).1, Option.some.inj hlead⟩
  | spawnPoll =>
      rw [Delivery.handles] at hlead
      cases hhandle : d.polls.handle with
      | some id => simp [hhandle, lead?] at hlead
      | none =>
          rw [hhandle] at hlead
          exact ⟨(hpolls.spawn hhandle _).1, hreaders, Option.some.inj hlead⟩

/-! ### Invariants -/

/-- What the poll task has got and not published yet. -/
def unpublished (d : Delivery) : List Status := d.polls.only?.elim [] PollStage.unpublished

/-- **What holds at every moment.** -/
structure Sound (d : Delivery) : Prop where
  polls : d.polls.Single
  readers : d.readers.Single
  /-- What is left of the call leads to both tasks running or to none. -/
  leads : d.todo.foldlM lead? d.handles = some (d.wantsTasks, d.wantsTasks)
  version : d.feed.version = d.published.length
  latest : d.feed.latest = d.published.getLast?
  fetched : (d.published ++ d.unpublished).Sublist d.fetched
  reading : ∀ r, d.readers.only? = some r → r.KeepsUp d.published d.applied

/-- A session that has done nothing is sound. -/
theorem sound_initial : initial.Sound where
  polls := rfl
  readers := rfl
  leads := rfl
  version := rfl
  latest := rfl
  fetched := .slnil
  reading _ h := by cases h

/-- What is published has been fetched. -/
theorem Sound.published_sublist (h : d.Sound) : d.published.Sublist d.fetched :=
  (List.sublist_append_left _ _).trans h.fetched

/-- What a poll task has got comes after what has been published. -/
theorem Sound.fetched_at? (h : d.Sound) {task : Nat} {stage : PollStage}
    (hstage : d.polls.at? task = some stage) :
    (d.published ++ stage.unpublished).Sublist d.fetched := by
  have hfetched := h.fetched
  rwa [unpublished, h.polls.only?_of_at? hstage] at hfetched

/-- There is a latest status when there is something to see. -/
theorem Sound.exists_latest (h : d.Sound) {seen : Nat} (hunseen : seen < d.feed.version) :
    ∃ status, d.feed.latest = some status := by
  rw [h.version] at hunseen
  have hnonempty := List.ne_nil_of_length_pos (Nat.zero_lt_of_lt hunseen)
  exact ⟨_, h.latest.trans (List.getLast?_eq_some_getLast hnonempty)⟩

/-- A poll task holds back the report of the stage that it has got to, if there is one. -/
theorem unpublished_set (h : d.polls.Single) {task : Nat} {stage : PollStage}
    (hstage : d.polls.at? task = some stage) (new : PollStage) :
    (d.polls.set task new).only?.elim [] PollStage.unpublished = new.unpublished := by
  rw [(h.set hstage new).2.1]
  rfl

/-- A sound session stays sound when its call does the next action. -/
theorem Sound.act (h : d.Sound) {action : SessionAction} {rest : List SessionAction}
    (todo : d.todo = action :: rest) : ({ d with todo := rest }.act action).Sound := by
  have hleads := h.leads
  rw [todo, List.foldlM_cons] at hleads
  obtain ⟨handles, hlead, hrest⟩ := Option.bind_eq_some_iff.mp hleads
  obtain ⟨hpolls, hreaders, hhandles⟩ :=
    tasks_act (d := { d with todo := rest }) h.polls h.readers hlead
  rw [← hhandles] at hrest
  cases action with
  | abortPoll =>
      refine { h with polls := hpolls, leads := hrest, fetched := ?_ }
      rw [unpublished, Delivery.act, h.polls.abort.2.2, Option.elim_none, List.append_nil]
      exact h.published_sublist
  | abortReader =>
      refine { h with readers := hreaders, leads := hrest, reading := fun r hr => ?_ }
      rw [Delivery.act, h.readers.abort.2.2] at hr
      cases hr
  | subscribe =>
      refine { h with readers := hreaders, leads := hrest, reading := fun r hr => ?_ }
      obtain rfl := Option.some.inj hr
      exact ⟨Nat.le_refl _, Nat.le_of_eq h.version, fun hlt => absurd hlt (Nat.lt_irrefl _)⟩
  | spawnPoll =>
      refine { h with polls := hpolls, leads := hrest, fetched := ?_ }
      exact (List.append_nil d.published).symm ▸ h.published_sublist

/-- **Every move keeps a session sound.** -/
theorem Sound.step (h : d.Sound) (hstep : d.Step m d') : d'.Sound := by
  cases hstep with
  | call c idle =>
      exact { h with leads := lead?_actions _ c }
  | act todo => exact h.act todo
  | ask stage =>
      refine { h with polls := (h.polls.set stage _).1, fetched := ?_ }
      rw [unpublished, unpublished_set h.polls stage, PollStage.unpublished, List.append_nil]
      exact h.published_sublist
  | answer status stage =>
      refine { h with polls := (h.polls.set stage _).1, fetched := ?_ }
      rw [unpublished, unpublished_set h.polls stage]
      exact h.published_sublist.append_right [status]
  | miss stage =>
      refine { h with polls := (h.polls.set stage _).1, fetched := ?_ }
      rw [unpublished, unpublished_set h.polls stage, PollStage.unpublished, List.append_nil]
      exact h.published_sublist
  | @publish task status stage =>
      refine {
        polls := (h.polls.set stage _).1
        readers := h.readers
        leads := h.leads
        version := ?_
        latest := List.getLast?_concat.symm
        fetched := ?_
        reading := fun r hr => ?_ }
      · rw [List.length_append]
        exact congrArg (· + 1) h.version
      · rw [unpublished, unpublished_set h.polls stage, PollStage.unpublished, List.append_nil]
        exact h.fetched_at? stage
      · obtain ⟨since_le, seen_le, last⟩ := h.reading r hr
        refine ⟨since_le, ?_, fun hlt => ?_⟩
        · rw [List.length_append]
          exact Nat.le_add_right_of_le seen_le
        · rw [List.take_append_of_le_length seen_le]
          exact last hlt
  | @take task since seen status reader unseen latest =>
      obtain ⟨hsingle, honly, -⟩ := h.readers.set reader ⟨since, d.feed.version, some status⟩
      obtain ⟨since_le, -, -⟩ := h.reading _ (h.readers.only?_of_at? reader)
      refine { h with readers := hsingle, reading := fun r hr => ?_ }
      rw [honly] at hr
      obtain rfl := Option.some.inj hr
      refine ⟨Nat.le_trans since_le (Nat.le_of_lt unseen), Nat.le_of_eq h.version, fun _ => ?_⟩
      rw [h.version, List.take_length, ← h.latest, latest]
      exact List.getLast?_concat
  | @apply task since seen status reader =>
      obtain ⟨hsingle, honly, -⟩ := h.readers.set reader ⟨since, seen, none⟩
      obtain ⟨since_le, seen_le, last⟩ := h.reading _ (h.readers.only?_of_at? reader)
      refine { h with readers := hsingle, reading := fun r hr => ?_ }
      rw [honly] at hr
      obtain rfl := Option.some.inj hr
      exact ⟨since_le, seen_le, fun hlt => (List.append_nil _).symm ▸ last hlt⟩
  | note other => exact { h with }
  | clear => exact { h with }

/-- **Every run keeps a session sound.** -/
theorem Sound.run (h : d.Sound) (hrun : d.run moves = some d') : d'.Sound :=
  run_induction (fun hd hstep => hd.step hstep) hrun h

/-! ### What is applied -/

/-- **What is applied from a moment on comes from what is published from that moment on**: each
publication once at most, and in order. At the moment `start` statuses had been published, and those
in `before` had been applied. The publications that the reader has not seen are still to come. -/
structure Follows (start : Nat) (before : List Status) (d : Delivery) : Prop where
  start_le : start ≤ d.published.length
  applied : ∃ new, d.applied = before ++ new ∧ new.Sublist (d.published.drop start) ∧
    ∀ r, d.readers.only? = some r → start ≤ r.since ∧
      (new ++ r.held.toList).Sublist ((d.published.take r.seen).drop start)

variable {start : Nat} {before : List Status}

/-- While there is no reader, all that has been published and applied counts as before. -/
theorem follows_of_none (h : d.readers.only? = none) :
    Follows d.published.length d.applied d where
  start_le := Nat.le_refl _
  applied := ⟨[], (List.append_nil _).symm, List.nil_sublist _, fun r hr => by simp [h] at hr⟩

/-- What `Follows` says depends on the publications, on what is applied and on the reader only. -/
theorem Follows.frame (h : Follows start before d) (hpublished : d'.published = d.published)
    (happlied : d'.applied = d.applied) (hreader : d'.readers.only? = d.readers.only?) :
    Follows start before d' := by
  obtain ⟨hstart, hnew⟩ := h
  exact ⟨hpublished ▸ hstart, by rwa [hpublished, happlied, hreader]⟩

/-- What comes from the publications that a reader has seen comes from all publications. -/
theorem sublist_take {new published : List Status} {seen : Nat}
    (h : new.Sublist ((published.take seen).drop start)) : new.Sublist (published.drop start) :=
  h.trans ((List.take_sublist _ _).drop _)

/-- **A status that is taken comes after those that have been taken.** -/
theorem sublist_of_take {new published : List Status} {seen : Nat} {status : Status}
    (h : new.Sublist ((published.take seen).drop start)) (hstart : start ≤ seen)
    (hseen : seen < published.length) (hlast : published.getLast? = some status) :
    (new ++ [status]).Sublist (published.drop start) := by
  obtain ⟨earlier, rfl⟩ := List.getLast?_eq_some_iff.mp hlast
  rw [List.length_append, List.length_singleton] at hseen
  have hearlier : seen ≤ earlier.length := Nat.le_of_lt_succ hseen
  rw [List.take_append_of_le_length hearlier] at h
  rw [List.drop_append_of_le_length (Nat.le_trans hstart hearlier)]
  exact (sublist_take h).append_right [status]

/-- **Every move keeps what is applied within what is published** from a moment on. -/
theorem Follows.step (h : Follows start before d) (hd : d.Sound) (hstep : d.Step m d') :
    Follows start before d' := by
  obtain ⟨new, hnew, hsublist, hreader⟩ := h.applied
  cases hstep with
  | call | ask | answer | miss | note | clear => exact h.frame rfl rfl rfl
  | @act action rest todo =>
      cases action with
      | abortPoll | spawnPoll => exact h.frame rfl rfl rfl
      | abortReader =>
          refine ⟨h.start_le, new, hnew, hsublist, fun r hr => ?_⟩
          rw [act, hd.readers.abort.2.2] at hr
          cases hr
      | subscribe =>
          refine ⟨h.start_le, new, hnew, hsublist, fun r hr => ?_⟩
          obtain rfl := Option.some.inj hr
          simp only [Option.toList_none, List.append_nil, act, hd.version, List.take_length]
          exact ⟨h.start_le, hsublist⟩
  | @publish task status stage =>
      refine ⟨?_, new, hnew, ?_, fun r hr => ?_⟩
      · rw [List.length_append]
        exact Nat.le_add_right_of_le h.start_le
      · exact hsublist.trans ((List.sublist_append_left _ _).drop _)
      · obtain ⟨hsince, htaken⟩ := hreader r hr
        refine ⟨hsince, ?_⟩
        rwa [List.take_append_of_le_length (hd.reading r hr).seen_le]
  | @take task since seen status reader unseen latest =>
      obtain ⟨hsince, htaken⟩ := hreader _ (hd.readers.only?_of_at? reader)
      obtain ⟨since_le, -, -⟩ := hd.reading _ (hd.readers.only?_of_at? reader)
      refine ⟨h.start_le, new, hnew, hsublist, fun r hr => ?_⟩
      rw [(hd.readers.set reader _).2.1] at hr
      obtain rfl := Option.some.inj hr
      rw [Option.toList_none, List.append_nil] at htaken
      simp only [Option.toList_some, hd.version, List.take_length]
      exact ⟨hsince, sublist_of_take htaken (Nat.le_trans hsince since_le) (hd.version ▸ unseen)
        (hd.latest ▸ latest)⟩
  | @apply task since seen status reader =>
      obtain ⟨hsince, htaken⟩ := hreader _ (hd.readers.only?_of_at? reader)
      refine ⟨h.start_le, new ++ [status], ?_, sublist_take htaken, fun r hr => ?_⟩
      · rw [← List.append_assoc, ← hnew]
      · rw [(hd.readers.set reader _).2.1] at hr
        obtain rfl := Option.some.inj hr
        exact ⟨hsince, (List.append_nil (new ++ [status])).symm ▸ htaken⟩

/-- Every run keeps what is applied within what is published from a moment on. -/
theorem Follows.run (h : Follows start before d) (hd : d.Sound) (hrun : d.run moves = some d') :
    Follows start before d' :=
  (run_induction (P := fun d => d.Sound ∧ Follows start before d)
    (fun hd hstep => ⟨hd.1.step hstep, hd.2.step hd.1 hstep⟩) hrun ⟨hd, h⟩).2

/-! ### Starting and stopping -/

/-- **There is never more than one task of a kind.** -/
theorem Sound.length_alive_le (h : d.Sound) :
    d.polls.alive.length ≤ 1 ∧ d.readers.alive.length ≤ 1 := by
  rw [h.polls.length_alive, h.readers.length_alive]
  exact ⟨Bool.toNat_le _, Bool.toNat_le _⟩

/-- Between two calls a session has one task of each kind if it wants them, and else none. -/
theorem Sound.length_alive_of_todo (h : d.Sound) (htodo : d.todo = []) :
    d.polls.alive.length = d.wantsTasks.toNat ∧ d.readers.alive.length = d.wantsTasks.toNat := by
  have hleads := h.leads
  rw [htodo] at hleads
  obtain ⟨hpolls, hreaders⟩ := Prod.mk.inj (Option.some.inj hleads)
  rw [h.polls.length_alive, h.readers.length_alive, hpolls, hreaders]
  exact ⟨rfl, rfl⟩

/-- **A session that is started has both tasks.** -/
theorem Sound.alive_of_started (h : d.Sound) (hstarted : d.IsStarted) :
    d.polls.alive.length = 1 ∧ d.readers.alive.length = 1 := by
  obtain ⟨htodo, hcalled⟩ := hstarted
  have hwants : d.wantsTasks = true := by simp [wantsTasks, hcalled]
  have hlengths := h.length_alive_of_todo htodo
  rwa [hwants] at hlengths

/-- **A session that is stopped has no tasks.** -/
theorem Sound.alive_of_stopped (h : d.Sound) (hstopped : d.IsStopped) :
    d.polls.alive = [] ∧ d.readers.alive = [] := by
  obtain ⟨htodo, hcalled⟩ := hstopped
  have hwants : d.wantsTasks = false := by simp [wantsTasks, hcalled]
  obtain ⟨hpolls, hreaders⟩ := h.length_alive_of_todo htodo
  rw [hwants] at hpolls hreaders
  exact ⟨List.length_eq_zero_iff.mp hpolls, List.length_eq_zero_iff.mp hreaders⟩

/-- **A session that is about to spawn a reader has none.** -/
theorem Sound.readers_of_subscribing (h : d.Sound) (hsubscribing : d.IsSubscribing) :
    d.readers.alive = [] := by
  obtain ⟨rest, htodo⟩ := List.head?_eq_some_iff.mp hsubscribing
  have hleads := h.leads
  rw [htodo, List.foldlM_cons] at hleads
  obtain ⟨handles, hlead, -⟩ := Option.bind_eq_some_iff.mp hleads
  obtain ⟨-, halive⟩ | ⟨id, r, hhandle, -⟩ := h.readers.cases
  · exact halive
  · simp [Delivery.handles, hhandle, lead?] at hlead

/-- All that has been done so far for the dashboard. -/
def record (d : Delivery) : Nat × List Status × List Status × List Status :=
  (d.asked, d.fetched, d.published, d.applied)

/-- A session without tasks, which does not begin to spawn any. -/
structure Quiet (d : Delivery) : Prop where
  polls : d.polls.alive = []
  readers : d.readers.alive = []
  todo : ∀ action ∈ d.todo, action = .abortPoll ∨ action = .abortReader

/-- Aborting does not bring about a task where there is none. -/
theorem alive_abort_of_nil {α : Type} {t : Tasks α} (h : t.alive = []) : t.abort.alive = [] := by
  rw [Tasks.abort]
  split
  · rw [h]
    rfl
  · exact h

/-- **Nothing is done without tasks**: no move but a start asks, publishes or applies anything. -/
theorem Quiet.step (h : d.Quiet) (hstep : d.Step m d') (hm : m ≠ .call .start) :
    d'.Quiet ∧ d'.record = d.record := by
  have hpoll {task : Nat} {stage : PollStage} (hstage : d.polls.at? task = some stage) : False := by
    rw [Tasks.at?, h.polls] at hstage
    cases hstage
  have hreader {task : Nat} {r : StatusReader} (hr : d.readers.at? task = some r) : False := by
    rw [Tasks.at?, h.readers] at hr
    cases hr
  cases hstep with
  | call c idle =>
      cases c with
      | start => exact absurd rfl hm
      | stop => exact ⟨{ h with todo := by simp [SessionCall.actions] }, rfl⟩
  | @act action rest todo =>
      have htodo := h.todo
      rw [todo, List.forall_mem_cons] at htodo
      obtain ⟨rfl | rfl, hrest⟩ := htodo
      · exact ⟨⟨alive_abort_of_nil h.polls, h.readers, hrest⟩, rfl⟩
      · exact ⟨⟨h.polls, alive_abort_of_nil h.readers, hrest⟩, rfl⟩
  | ask stage | answer _ stage | miss stage | publish stage => exact (hpoll stage).elim
  | take reader | apply reader => exact (hreader reader).elim
  | note | clear => exact ⟨{ h with }, rfl⟩

/-- Nothing is done without tasks in a run that does not start the session. -/
theorem Quiet.run (h : d.Quiet) (hrun : d.run moves = some d') (hmoves : .call .start ∉ moves) :
    d'.record = d.record := by
  induction moves generalizing d with
  | nil => exact Option.some.inj hrun ▸ rfl
  | cons m moves ih =>
      obtain ⟨d₁, hmove, hrun⟩ := Option.bind_eq_some_iff.mp hrun
      have hm := List.ne_of_not_mem_cons hmoves
      have hlater := List.not_mem_of_not_mem_cons hmoves
      obtain ⟨hquiet, hrecord⟩ := h.step (step_of_move hmove) hm.symm
      exact (ih hquiet hrun hlater).trans hrecord

/-- **Nothing happens to a session that is stopped** until it is started. -/
theorem Sound.frozen (h : d.Sound) (hstopped : d.IsStopped) (hrun : d.run moves = some d')
    (hmoves : .call .start ∉ moves) : d'.record = d.record := by
  obtain ⟨hpolls, hreaders⟩ := h.alive_of_stopped hstopped
  have hquiet : d.Quiet := ⟨hpolls, hreaders, by simp [hstopped.1]⟩
  exact hquiet.run hrun hmoves

/-! ### A reader that is left alone -/

/-- A reader can take the latest status if it has not seen it. -/
theorem move?_take {task since seen : Nat} {status : Status}
    (hreader : d.readers.at? task = some ⟨since, seen, none⟩) (hunseen : seen < d.feed.version)
    (hlatest : d.feed.latest = some status) :
    d.move? (.take task) = some { d with
      readers := d.readers.set task ⟨since, d.feed.version, some status⟩ } := by
  simp [move?, hreader, StatusFeed.take, hunseen, hlatest]

/-- A reader can apply what it has taken. -/
theorem move?_apply {task since seen : Nat} {status : Status}
    (hreader : d.readers.at? task = some ⟨since, seen, some status⟩) :
    d.move? (.apply task) = some { d with
      readers := d.readers.set task ⟨since, seen, none⟩
      dashboard := d.dashboard.applyStatus status
      applied := d.applied ++ [status] } := by
  simp [move?, hreader]

/-- Some moves of a reader alone, after which it waits for another publication. -/
structure ComesToRest (d : Delivery) (task since : Nat) (moves : List DeliveryMove)
    (d' : Delivery) : Prop where
  own : ∀ m ∈ moves, m = .take task ∨ m = .apply task
  run : d.run moves = some d'
  published : d'.published = d.published
  resting : ∃ r, d'.readers.at? task = some r ∧ r.since = since ∧ d'.IsResting r

/-- A reader with nothing in its hand takes what it has not seen and applies it. -/
theorem Sound.comesToRest_of_held_none (h : d.Sound) {task since seen : Nat}
    (hr : d.readers.at? task = some ⟨since, seen, none⟩) :
    ∃ moves d', d.ComesToRest task since moves d' ∧ moves.length ≤ 2 := by
  by_cases hseen : d.feed.version ≤ seen
  · exact ⟨[], d, ⟨by simp, rfl, rfl, _, hr, rfl, rfl, hseen⟩, Nat.zero_le _⟩
  · have hunseen : seen < d.feed.version := Nat.lt_of_not_le hseen
    obtain ⟨status, hlatest⟩ := h.exists_latest hunseen
    obtain ⟨hsingle, -, htaken⟩ := h.readers.set hr ⟨since, d.feed.version, some status⟩
    obtain ⟨-, -, happlied⟩ := hsingle.set htaken ⟨since, d.feed.version, none⟩
    have hrun := (run_cons (move?_take hr hunseen hlatest) [.apply task]).trans
      (run_cons (move?_apply htaken) [])
    exact ⟨[.take task, .apply task], _,
      ⟨by simp, hrun, rfl, _, happlied, rfl, rfl, Nat.le_refl _⟩, Nat.le_refl _⟩

/-- **A reader that is left alone comes to rest** in three moves at most. -/
theorem Sound.comesToRest (h : d.Sound) {task : Nat} {r : StatusReader}
    (hr : d.readers.at? task = some r) :
    ∃ moves d', d.ComesToRest task r.since moves d' ∧ moves.length ≤ 3 := by
  obtain ⟨since, seen, held⟩ := r
  cases held with
  | none =>
      obtain ⟨moves, d', hrest, hlength⟩ := h.comesToRest_of_held_none hr
      exact ⟨moves, d', hrest, Nat.le_succ_of_le hlength⟩
  | some status =>
      have happly := move?_apply hr
      obtain ⟨moves, d', ⟨hown, hrun, hpublished, hresting⟩, hlength⟩ :=
        (h.step (step_of_move happly)).comesToRest_of_held_none (h.readers.set hr _).2.2
      refine ⟨.apply task :: moves, d', ⟨?_, ?_, hpublished, hresting⟩, Nat.succ_le_succ hlength⟩
      · exact List.forall_mem_cons.mpr ⟨.inr rfl, hown⟩
      · exact (run_cons happly moves).trans hrun

/-- **The last status is on the dashboard** when the reader is at rest, if anything has been
published since it began. -/
theorem Sound.getLast?_applied (h : d.Sound) {task : Nat} {r : StatusReader}
    (hr : d.readers.at? task = some r) (hresting : d.IsResting r)
    (hpublished : r.since < d.published.length) :
    d.applied.getLast? = d.published.getLast? := by
  obtain ⟨hheld, hseen⟩ := hresting
  rw [h.version] at hseen
  have hlast := (h.reading r (h.readers.only?_of_at? hr)).last (Nat.lt_of_lt_of_le hpublished hseen)
  rwa [hheld, Option.toList_none, List.append_nil, List.take_of_length_le hseen] at hlast

/-! ### What is certain -/

/-- **What is certain at a moment**, whatever has happened before. -/
structure Delivers (d : Delivery) : Prop where
  /-- What is applied comes from what is published: each publication once at most, and in order. -/
  applied : d.applied.Sublist d.published
  /-- What is published comes from what is fetched. -/
  published : d.published.Sublist d.fetched
  /-- There are never two poll tasks. -/
  polls : d.polls.alive.length ≤ 1
  /-- There are never two readers. -/
  readers : d.readers.alive.length ≤ 1
  /-- A session that is started has one of each. -/
  started : d.IsStarted → d.polls.alive.length = 1 ∧ d.readers.alive.length = 1
  /-- A reader that is left alone comes to rest. -/
  rests : ∀ task r, d.readers.at? task = some r →
    ∃ moves d', d.ComesToRest task r.since moves d' ∧ moves.length ≤ 3
  /-- When a reader is at rest, the last status that has been published since it began is the last
  one applied. -/
  current : ∀ task r, d.readers.at? task = some r → d.IsResting r → r.since < d.published.length →
    d.applied.getLast? = d.published.getLast?
  /-- Nothing is asked, fetched, published or applied after a stop until the next start. -/
  stopped : d.IsStopped → ∀ moves d', d.run moves = some d' → .call .start ∉ moves →
    d'.record = d.record
  /-- Nothing that is published before a session is stopped or started is applied after it. -/
  anew : d.IsStopped ∨ d.IsSubscribing → ∀ moves d', d.run moves = some d' →
    ∃ new, d'.applied = d.applied ++ new ∧ new.Sublist (d'.published.drop d.published.length)

/-- While there is no reader, nothing that has been published is applied any more. -/
theorem Sound.applied_of_readers (h : d.Sound) (hreaders : d.readers.alive = [])
    (hrun : d.run moves = some d') :
    ∃ new, d'.applied = d.applied ++ new ∧
      new.Sublist (d'.published.drop d.published.length) := by
  have hnone : d.readers.only? = none := by rw [Tasks.only?, hreaders]; rfl
  obtain ⟨new, happlied, hnew, -⟩ := ((follows_of_none hnone).run h hrun).applied
  exact ⟨new, happlied, hnew⟩

/-- **After every run the session delivers** what it is said to. -/
theorem delivers_of_run (hrun : initial.run moves = some d) : d.Delivers := by
  have hsound := sound_initial.run hrun
  obtain ⟨hpolls, hreaders⟩ := hsound.length_alive_le
  obtain ⟨new, happlied, hnew⟩ := sound_initial.applied_of_readers rfl hrun
  obtain rfl : d.applied = new := happlied
  exact {
    applied := hnew
    published := hsound.published_sublist
    polls := hpolls
    readers := hreaders
    started := hsound.alive_of_started
    rests := fun task r hr => hsound.comesToRest hr
    current := fun task r hr => hsound.getLast?_applied hr
    stopped := fun hstopped moves d' hrun => hsound.frozen hstopped hrun
    anew := fun hmoment moves d' hrun =>
      hsound.applied_of_readers
        (hmoment.elim (fun hstopped => (hsound.alive_of_stopped hstopped).2)
          hsound.readers_of_subscribing) hrun }

end Delivery

end FanControl
