import FanControl.Session.Client

/-!
# The store behind a device

To its clients a device is a small store. It holds a mode, a manual output, a band and up to three
slots, and each call reads or replaces one of them. `Store.perform` says what a call does to such a
store, without requests, texts and dialects; `Device.store` is the store that the memory of a device
amounts to.

Clients may take turns at one device. Each visit is one call, made by a client with a dialect of its
own at a minute of the day.

## Main definitions

* `StoreCall`, `StoreCall.make`: a call, and how a client makes it;
* `Store`, `Store.perform`: the store, and what a call does to it;
* `Device.store`: the store behind a device;
* `Device.visitAll`, `Store.performAll`: calls one after another.
-/

namespace FanControl

/-- A call that reads or replaces a part of the store. -/
inductive StoreCall where
  | saveManual (setting : ManualSetting)
  | loadManual
  | saveAuto (band : AutoSetting)
  | loadAuto
  | saveSlot (slot : Slot)
  | loadSlot (id : SlotId)
  | eraseSlot (id : SlotId)
  | fetchStatus
deriving DecidableEq, Repr

namespace StoreCall

/-- What is answered. Of a status only the mode belongs to the store. -/
def Answer : StoreCall → Type
  | loadManual => ManualReport
  | loadAuto => AutoReport
  | loadSlot _ => Slot
  | fetchStatus => Option ReportedMode
  | saveManual _ | saveAuto _ | saveSlot _ | eraseSlot _ => Unit

/-- The mode that the call puts the device in. -/
def savedMode? : StoreCall → Option Mode
  | saveManual _ => some .manual
  | saveAuto _ => some .auto
  | saveSlot _ => some .scheduled
  | loadManual | loadAuto | loadSlot _ | eraseSlot _ | fetchStatus => none

/-- Whether the call only reads. -/
def isRead : StoreCall → Bool
  | loadManual | loadAuto | loadSlot _ | fetchStatus => true
  | saveManual _ | saveAuto _ | saveSlot _ | eraseSlot _ => false

variable {σ : Type}

/-- How a client makes the call. -/
def make (client : Client) (link : Link σ) : (c : StoreCall) → σ → Except Failure c.Answer × σ
  | saveManual setting, s => client.call link (.saveManual setting) s
  | loadManual, s => client.call link .loadManual s
  | saveAuto band, s => client.call link (.saveAuto band) s
  | loadAuto, s => client.call link .loadAuto s
  | saveSlot slot, s => client.call link (.saveSlot slot) s
  | loadSlot id, s => client.call link (.loadSlot id) s
  | eraseSlot id, s => client.call link (.eraseSlot id) s
  | fetchStatus, s =>
    let (answer, s) := Client.fetch link s
    (answer.map Status.mode, s)

end StoreCall

/-! ### The store -/

/-- What a device keeps for its clients. -/
structure Store where
  mode : ReportedMode
  manual : ManualSetting
  band : AutoSetting
  slots : SlotId → Option Slot

namespace Store

/-- The store in a mode. -/
def inMode (store : Store) (mode : Mode) : Store := { store with mode := .known mode }

/-- The store with something else under the number of a slot. -/
def put (store : Store) (id : SlotId) (slot : Option Slot) : Store :=
  { store with slots := fun other => if other = id then slot else store.slots other }

/-- What a call does to the store. -/
def perform : (c : StoreCall) → Store → Except Failure c.Answer × Store
  | .saveManual setting, store =>
    (.ok (), { store with manual := ⟨min setting.pwm 100⟩ }.inMode .manual)
  | .loadManual, store =>
    let report : ManualReport := ⟨some (Int64.ofNat store.manual.pwm.toNat), some store.mode.code⟩
    (.ok report, store)
  | .saveAuto band, store => (.ok (), { store with band }.inMode .auto)
  | .loadAuto, store =>
    let report : AutoReport :=
      ⟨some (Int64.ofInt store.band.tmin.toInt), some (Int64.ofInt store.band.tmax.toInt),
        some store.mode.code⟩
    (.ok report, store)
  | .saveSlot slot, store => (.ok (), (store.put slot.id (some slot.sanitize)).inMode .scheduled)
  | .loadSlot id, store =>
    match store.slots id with
    | some slot => (.ok slot, store)
    | none => (.error (.noSlot id), store)
  | .eraseSlot id, store => (.ok (), store.put id none)
  | .fetchStatus, store => (.ok (some store.mode), store)

/-- What calls do to the store, one after another, with what each was answered. -/
def performAll : List StoreCall → Store → List (Σ c : StoreCall, Except Failure c.Answer) × Store
  | [], store => ([], store)
  | c :: calls, store =>
    let (answer, store) := store.perform c
    let (answers, store) := performAll calls store
    (⟨c, answer⟩ :: answers, store)

end Store

/-! ### Devices -/

/-- The store behind a device. A slot is under its place in the table and within its ranges, as a
client reads it. -/
def Device.store (d : Device) : Store where
  mode := .ofCode d.modeCode
  manual := d.manual
  band := d.auto
  slots id := (d.slots.get id).map fun slot => { slot with id }.sanitize

/-- A call that a client makes at a minute of the day. -/
structure Visit where
  client : Client
  minute : Nat
  call : StoreCall
deriving DecidableEq, Repr

/-- Makes the call of a visit. -/
def Visit.make (v : Visit) (d : Device) : Except Failure v.call.Answer × Device :=
  v.call.make v.client (Device.link v.minute) d

/-- Visits one after another, with what each was answered. -/
def Device.visitAll :
    List Visit → Device → List (Σ c : StoreCall, Except Failure c.Answer) × Device
  | [], d => ([], d)
  | v :: visits, d =>
    let (answer, d) := v.make d
    let (answers, d) := visitAll visits d
    (⟨v.call, answer⟩ :: answers, d)

end FanControl
