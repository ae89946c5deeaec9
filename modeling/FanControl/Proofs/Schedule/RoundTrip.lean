import FanControl.Proofs.Schedule.Dialect

/-!
# Slots there and back

A body about a slot may come from anywhere, and then its numbers can be any at all. Whatever it
holds, the slot that is **read from it is in range**, and a slot in range goes to the wire and comes
back as it is, in either dialect and in either direction. So reading settles a slot once and for
all.

The dialects do not understand each other by accident: a body that names its slot under the key of
one dialect **says nothing to the other one**.

## Main results

* `Dialect.inRange_of_decodeSet`, `Dialect.inRange_of_decodeLoaded`: what is read is in range;
* `Dialect.decodeSelector_encodeSet_of_ne`, `Dialect.decodeSelector_encodeErase_of_ne`: bodies of
  the other dialect;
* `Dialect.slot_roundTrip`: all of this for every slot and every body.
-/

namespace FanControl

open Json

/-- What the fields of a body describe is in range. -/
theorem SlotFields.inRange_toSlot (f : SlotFields) (id : SlotId) : (f.toSlot id).InRange :=
  Slot.inRange_sanitize _

namespace Dialect

variable (d : Dialect)

/-! ### What is read -/

/-- **A slot that is read from a body that sends it is in range.** -/
theorem inRange_of_decodeSet {body : Value} {s : Slot} (h : d.decodeSet body = .ok s) :
    s.InRange := by
  obtain ⟨-, fields, -, hs⟩ := d.decodeSet_eq_ok_iff.mp h
  exact hs ▸ fields.inRange_toSlot s.id

/-- **A slot that is read from an answer is in range**, and has the number that it was asked for
by. -/
theorem inRange_of_decodeLoaded {id : SlotId} {body : Bytes} {s : Slot}
    (h : decodeLoaded id body = .ok s) : s.InRange ∧ s.id = id := by
  rw [decodeLoaded] at h
  split at h
  · next fields _ =>
    obtain rfl := Except.ok.inj h
    exact ⟨fields.inRange_toSlot id, rfl⟩
  · cases h

/-- **A slot in range comes back as it is**, whether it is sent or given out. -/
theorem decode_encode_of_inRange {s : Slot} (h : s.InRange) :
    d.decodeSet (d.encodeSet s) = .ok s ∧
      decodeLoaded s.id (Text.bytes (d.encodeLoaded s).render) = .ok s := by
  rw [decodeSet_encodeSet, decodeLoaded_encodeLoaded, h.sanitize_eq]
  exact ⟨rfl, rfl⟩

/-! ### Bodies of the other dialect -/

variable {d} {other : Dialect}

/-- Dialects differ in the key of a slot's number. -/
theorem selectorKey_ne (h : other ≠ d) : other.selectorKey ≠ d.selectorKey := by
  cases other <;> cases d <;> first | decide | exact absurd rfl h

/-- No field of a slot is under the key of a slot's number. -/
theorem lookup?_selectorKey_slotMembers (s : Slot) :
    Value.lookup? other.selectorKey (d.slotMembers s) = none := by
  cases other <;> cases d <;> rfl

/-- A body without a number under the key of a dialect does not say which slot is meant. -/
theorem decodeSelector_of_get?_none {body : Value} (h : body.get? d.selectorKey = none) :
    d.decodeSelector body = .error (.missingSelector d.selectorKey) ∧
      d.decodeSet body = .error (.missingSelector d.selectorKey) := by
  have hselector : d.decodeSelector body = .error (.missingSelector d.selectorKey) := by
    rw [decodeSelector, h]
    rfl
  refine ⟨hselector, ?_⟩
  rw [decodeSet, hselector]
  rfl

/-- **A body that sends a slot in one dialect says nothing to the other.** -/
theorem decodeSelector_encodeSet_of_ne (h : other ≠ d) (s : Slot) :
    other.decodeSelector (d.encodeSet s) = .error (.missingSelector other.selectorKey) ∧
      other.decodeSet (d.encodeSet s) = .error (.missingSelector other.selectorKey) := by
  refine decodeSelector_of_get?_none ?_
  refine (Value.lookup?_insert_of_ne (selectorKey_ne h) _ _).trans ?_
  exact lookup?_selectorKey_slotMembers s

/-- **A body that has a slot erased is refused in the other dialect**: the key of the number is
missing. -/
theorem decodeSelector_encodeErase_of_ne (h : other ≠ d) (id : SlotId) :
    other.decodeSelector (d.encodeErase id) = .error (.missingSelector other.selectorKey) ∧
      other.decodeSet (d.encodeErase id) = .error (.missingSelector other.selectorKey) :=
  decodeSelector_of_get?_none (Value.lookup?_insert_of_ne (selectorKey_ne h) _ [])

/-! ### There and back -/

/-- **Slots go there and back.** A slot that is sent, and one that is given out, is read with each
field held within its range, and so as it is if it is in range. Any slot that is read, from
whatever body and in whatever dialect, is in range, and when it is sent or given out again it is
read as it is. A body of one dialect is refused by the other one, which does not find the number of
the slot. -/
theorem slot_roundTrip (d : Dialect) :
    (∀ s : Slot, d.decodeSet (d.encodeSet s) = .ok s.sanitize ∧
      decodeLoaded s.id (Text.bytes (d.encodeLoaded s).render) = .ok s.sanitize ∧
      s.sanitize.InRange ∧ (s.InRange → s.sanitize = s)) ∧
    (∀ s : Slot, ((∃ (dialect : Dialect) (body : Value), dialect.decodeSet body = .ok s) ∨
        ∃ (id : SlotId) (body : Bytes), decodeLoaded id body = .ok s) →
      s.InRange ∧ d.decodeSet (d.encodeSet s) = .ok s ∧
        decodeLoaded s.id (Text.bytes (d.encodeLoaded s).render) = .ok s) ∧
    ∀ other, other ≠ d → ∀ (s : Slot) (id : SlotId),
      other.decodeSelector (d.encodeSet s) = .error (.missingSelector other.selectorKey) ∧
      other.decodeSet (d.encodeSet s) = .error (.missingSelector other.selectorKey) ∧
      other.decodeSelector (d.encodeErase id) = .error (.missingSelector other.selectorKey) ∧
      other.decodeSet (d.encodeErase id) = .error (.missingSelector other.selectorKey) := by
  refine ⟨fun s => ⟨d.decodeSet_encodeSet s, d.decodeLoaded_encodeLoaded s s.id,
    s.inRange_sanitize, Slot.InRange.sanitize_eq⟩, fun s hread => ?_, fun other hne s id => ?_⟩
  · have hrange : s.InRange := by
      rcases hread with ⟨dialect, body, h⟩ | ⟨id, body, h⟩
      · exact dialect.inRange_of_decodeSet h
      · exact (inRange_of_decodeLoaded h).1
    exact ⟨hrange, d.decode_encode_of_inRange hrange⟩
  · obtain ⟨hset, hsetBody⟩ := decodeSelector_encodeSet_of_ne hne s
    obtain ⟨herase, heraseBody⟩ := decodeSelector_encodeErase_of_ne hne id
    exact ⟨hset, hsetBody, herase, heraseBody⟩

/-- A body whose numbers are far out of range. -/
def strayBody : Value := .object [("active", .integer 7), ("h_end", .integer 99),
  ("h_start", .integer (-1)), ("id", .integer 2), ("m_end", .integer 60), ("m_start", .integer 5),
  ("t0", .integer 101), ("t100", .integer 300)]

/-- What is read from it is settled: it goes there and back in the other dialect, to which the body
itself says nothing. -/
theorem slot_roundTrip_strayBody :
    let s : Slot := ⟨.second, true, 0, 5, 23, 59, 100, 100⟩
    program.decodeSet strayBody = .ok s ∧ s.InRange ∧
      programSlot.decodeSet (programSlot.encodeSet s) = .ok s ∧
      program.decodeSet (programSlot.encodeSet s) = .error (.missingSelector "id") := by
  intro s
  have hread : program.decodeSet strayBody = .ok s := rfl
  obtain ⟨-, hsettled, hother⟩ := slot_roundTrip programSlot
  obtain ⟨hrange, hset, -⟩ := hsettled s (.inl ⟨program, strayBody, hread⟩)
  exact ⟨hread, hrange, hset, (hother program (by decide) s s.id).2.1⟩

end Dialect

end FanControl
