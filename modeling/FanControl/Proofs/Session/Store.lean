import FanControl.Proofs.Device.Calls
import FanControl.Proofs.LastWrite
import FanControl.Session.Store

/-!
# A device is a store

Whatever clients do at a device, in whichever dialects and in whichever order, they are answered
**as the store behind it would answer**. One visit is one call of the store (`Visit.make_store`), so
visits one after another are calls of the store one after another. What a load answers after a save
is then read off the store, where nothing is left of requests, texts and dialects. That a call which
is made again changes nothing more is said of the device itself, of which the store shows only a
part.

## Main results

* `Visit.make_store`: one visit;
* `Visit.make_again`: a visit that is made again;
* `Device.visitAll_store`: visits one after another, and what that means for saving and loading.
-/

namespace FanControl

/-! ### The store behind a device -/

namespace Device

/-- A mode is seen in the store. -/
theorem store_inMode (d : Device) (mode : Mode) : (d.inMode mode).store = d.store.inMode mode := by
  simp [store, inMode, Store.inMode]

/-- A place in the table is seen in the store. -/
theorem store_setSlot (d : Device) (id : SlotId) (slot : Option Slot) :
    { d with slots := d.slots.set id slot }.store =
      d.store.put id (slot.map fun slot => { slot with id }.sanitize) := by
  have hslots (other : SlotId) :
      ((d.slots.set id slot).get other).map (fun slot => { slot with id := other }.sanitize) =
        (d.store.put id (slot.map fun slot => { slot with id }.sanitize)).slots other := by
    rw [Store.put]
    by_cases h : other = id
    · subst h
      simp
    · simp [h, SlotTable.get_set_of_ne _ _ h, store]
  simp only [store, hslots]
  rfl

/-- The mode in the store has the number that the device has. -/
@[simp] theorem code_store_mode (d : Device) : d.store.mode.code = d.modeCode :=
  ReportedMode.code_ofCode d.modeCode

end Device

/-! ### Visits -/

/-- **A visit is a call of the store.** -/
theorem Visit.make_store (v : Visit) (d : Device) :
    ((v.make d).1, (v.make d).2.store) = d.store.perform v.call := by
  obtain ⟨client, minute, call⟩ := v
  cases call with
  | saveManual setting =>
      simp only [make, StoreCall.make, Client.call_saveManual, Device.store_inMode]
      rfl
  | loadManual =>
      simp only [make, StoreCall.make, Client.call_loadManual, Store.perform,
        Device.code_store_mode]
      rfl
  | saveAuto band =>
      simp only [make, StoreCall.make, Client.call_saveAuto, Device.store_inMode]
      rfl
  | loadAuto =>
      simp only [make, StoreCall.make, Client.call_loadAuto, Store.perform, Device.code_store_mode]
      rfl
  | saveSlot slot =>
      have hslot : { slot.sanitize with id := slot.sanitize.id }.sanitize = slot.sanitize :=
        slot.sanitize_sanitize
      simp only [make, StoreCall.make, Client.call_saveSlot, Device.store_inMode, SlotTable.put,
        Device.store_setSlot, Option.map_some, hslot]
      rfl
  | loadSlot id =>
      simp only [make, StoreCall.make, Client.call_loadSlot, Store.perform, Device.store]
      cases d.slots.get id <;> rfl
  | eraseSlot id =>
      simp only [make, StoreCall.make, Client.call_eraseSlot, Device.store_setSlot]
      rfl
  | fetchStatus =>
      obtain ⟨status, hfetch, hmode⟩ := Client.fetch_link minute d
      simp only [make, StoreCall.make, hfetch, Except.map, hmode]
      rfl

/-- **Visits one after another are calls of the store one after another.** -/
theorem Device.visitAll_perform (visits : List Visit) (d : Device) :
    ((d.visitAll visits).1, (d.visitAll visits).2.store) =
      d.store.performAll (visits.map Visit.call) := by
  induction visits generalizing d with
  | nil => rfl
  | cons v visits ih =>
      rw [List.map_cons, Store.performAll, ← v.make_store d]
      dsimp only
      rw [← ih (v.make d).2]
      rfl

/-- A visit that reads leaves the device alone. -/
theorem Visit.make_of_isRead {v : Visit} (h : v.call.isRead = true) (d : Device) :
    (v.make d).2 = d := by
  obtain ⟨client, minute, call⟩ := v
  cases call with
  | loadManual => exact congrArg Prod.snd (client.call_loadManual minute d)
  | loadAuto => exact congrArg Prod.snd (client.call_loadAuto minute d)
  | loadSlot id => exact congrArg Prod.snd (client.call_loadSlot minute d id)
  | fetchStatus =>
      obtain ⟨status, hfetch, -⟩ := Client.fetch_link minute d
      simp only [make, StoreCall.make, hfetch]
  | saveManual | saveAuto | saveSlot | eraseSlot => cases h

/-- **A visit that is made again** leaves the device as it was made, whoever makes it again and in
whichever dialect. -/
theorem Visit.make_again (client : Client) (minute : Nat) (v : Visit) (d : Device) :
    (Visit.mk client minute v.call).make (v.make d).2 = v.make d := by
  obtain ⟨first, before, call⟩ := v
  cases call with
  | saveManual | saveAuto =>
      simp only [make, StoreCall.make, Client.call_saveManual, Client.call_saveAuto]
      rfl
  | saveSlot | eraseSlot =>
      simp only [make, StoreCall.make, Client.call_saveSlot, Client.call_eraseSlot, SlotTable.put,
        Device.inMode, SlotTable.set_set]
      rfl
  | loadManual | loadAuto | loadSlot =>
      simp only [make, StoreCall.make, Client.call_loadManual, Client.call_loadAuto,
        Client.call_loadSlot]
      rfl
  | fetchStatus =>
      obtain ⟨status, hfetch, hmode⟩ := Client.fetch_link before d
      obtain ⟨again, hagain, hmodeAgain⟩ := Client.fetch_link minute d
      simp only [make, StoreCall.make, hfetch, hagain, Except.map, hmode, hmodeAgain]

/-! ### Saving and loading -/

/-- The mode of the store is that of the last call that saved something. -/
theorem Store.mode_performAll (calls : List StoreCall) (store : Store) :
    (store.performAll calls).2.mode =
      (calls.filterMap StoreCall.savedMode?).getLast?.elim store.mode .known := by
  have hcall (store : Store) (c : StoreCall) :
      (store.perform c).2.mode = c.savedMode?.elim store.mode .known := by
    cases c with
    | loadSlot id =>
        rw [perform]
        split <;> rfl
    | _ => rfl
  have hrun (store : Store) :
      (store.performAll calls).2 = calls.foldl (fun store c => (store.perform c).2) store := by
    induction calls generalizing store with
    | nil => rfl
    | cons c calls ih => exact ih (store.perform c).2
  rw [hrun]
  exact foldl_lastWrite hcall store calls

/-- **What a device owes to those who save and load.** They may be different clients, and may speak
different dialects. -/
structure Device.KeepsWhatIsSaved (d : Device) : Prop where
  manual (saver loader : Client) (m n : Nat) (setting : ManualSetting) :
    ((Visit.mk loader n .loadManual).make
        ((Visit.mk saver m (.saveManual setting)).make d).2).1.map ManualReport.setting =
      .ok ⟨min setting.pwm 100⟩
  band (saver loader : Client) (m n : Nat) (band current : AutoSetting) :
    ((Visit.mk loader n .loadAuto).make
        ((Visit.mk saver m (.saveAuto band)).make d).2).1.map (AutoReport.setting · current) =
      .ok band
  slot (saver loader : Client) (m n : Nat) (slot : Slot) :
    ((Visit.mk loader n (.loadSlot slot.id)).make
        ((Visit.mk saver m (.saveSlot slot)).make d).2).1 = .ok slot.sanitize
  erased (saver loader : Client) (m n : Nat) (id : SlotId) :
    ((Visit.mk loader n (.loadSlot id)).make
        ((Visit.mk saver m (.eraseSlot id)).make d).2).1 = .error (.noSlot id)
  again (saver other : Client) (m n : Nat) (call : StoreCall) :
    (Visit.mk other n call).make ((Visit.mk saver m call).make d).2 =
      (Visit.mk saver m call).make d
  read (loader : Client) (n : Nat) (call : StoreCall) (h : call.isRead = true) :
    ((Visit.mk loader n call).make d).2 = d

/-- The answer to a visit after another one is that of the store. -/
theorem Visit.make_after (v w : Visit) (d : Device) :
    (w.make (v.make d).2).1 = ((d.store.perform v.call).2.perform w.call).1 := by
  rw [← v.make_store d, ← w.make_store (v.make d).2]

/-- **Every device keeps what is saved.** -/
theorem Device.keepsWhatIsSaved (d : Device) : d.KeepsWhatIsSaved where
  manual saver loader m n setting := by
    have hpercent : percent (Int64.ofNat (min setting.pwm 100).toNat) = min setting.pwm 100 := by
      refine (percent_ofInt (min setting.pwm 100)).trans ?_
      simp [Std.Associative.assoc, Std.min_self]
    rw [Visit.make_after]
    exact congrArg (fun pwm => Except.ok (ManualSetting.mk pwm)) hpercent
  band saver loader m n band current := by
    rw [Visit.make_after]
    exact congrArg₂ (fun tmin tmax => Except.ok (AutoSetting.mk tmin tmax))
      (clampInt32_ofInt band.tmin) (clampInt32_ofInt band.tmax)
  slot saver loader m n slot := by
    rw [Visit.make_after]
    simp [Store.perform, Store.put, Store.inMode]
  erased saver loader m n id := by
    rw [Visit.make_after]
    simp [Store.perform, Store.put]
  again saver other m n call := Visit.make_again other n ⟨saver, m, call⟩ d
  read loader n call h := Visit.make_of_isRead h d

/-- **A device is a store.** Whatever clients have done at it, and in whichever dialects, each of
them was answered as the store behind the device answers, and what is left behind is what the store
has come to. The status reports the mode of the last call that saved something, and whatever is
saved from then on is kept. -/
theorem Device.visitAll_store (d : Device) (visits : List Visit) :
    let calls := visits.map Visit.call
    let after := (d.visitAll visits).2
    ((d.visitAll visits).1, after.store) = d.store.performAll calls ∧
    (∀ client minute, ((Visit.mk client minute .fetchStatus).make after).1 =
      .ok (some ((calls.filterMap StoreCall.savedMode?).getLast?.elim d.store.mode .known))) ∧
    after.KeepsWhatIsSaved := by
  intro calls after
  have hrun : ((d.visitAll visits).1, after.store) = d.store.performAll calls :=
    d.visitAll_perform visits
  refine ⟨hrun, fun client minute => ?_, after.keepsWhatIsSaved⟩
  have hfetch := (Visit.mk client minute .fetchStatus).make_store after
  rw [← Store.mode_performAll, ← hrun]
  exact congrArg Prod.fst hfetch

end FanControl
