import FanControl.Proofs.Clamp
import FanControl.Proofs.Json.Members
import FanControl.Proofs.Status
import FanControl.Schedule.Dialect

/-!
# Slots on the wire

A slot that is sent, in either dialect, is read with the number it has and **each field held within
its range**, and so is a slot that a device gives out. Both dialects write the same fields, so for a
reader they differ in nothing but the key of the slot's number, which no field has and which is
therefore passed by.

## Main results

* `Dialect.decodeSet_encodeSet`, `Dialect.decodeSelector_encodeErase`: bodies that are sent;
* `Dialect.decodeLoaded_encodeLoaded`: bodies that are given out;
* `Dialect.holds_encodeSet`, `Dialect.length_encodeSet_le`: sent bodies as texts.
-/

namespace FanControl

open Json
open Text (utf8)

/-- **Holding a slot within its ranges once is enough.** -/
@[simp] theorem Slot.sanitize_sanitize (s : Slot) : s.sanitize.sanitize = s.sanitize := by
  simp [sanitize, Std.Associative.assoc, Std.min_self]

/-- The fields of a slot read the same from texts and from values. -/
theorem SlotFields.faithful_record : ∀ f ∈ record.fields, f.fill.Faithful := by
  simp [record, Field.faithful_required, Flag.faithful_reader, Reader.faithful_int64]

namespace Dialect

variable (d : Dialect)

/-- The name of a dialect is read wherever it stands. -/
theorem reader_node (depth : Nat) : reader.node depth d.toValue.node = .ok d := by
  rw [toValue, Value.node, reader]
  simp only [Reader.variant, StringText.decode_ofString]
  cases d <;> rfl

/-- **The name of a dialect is read back.** -/
theorem ofBytes_render : reader.ReadsBack toValue := by
  intro d
  rw [Reader.ofBytes_render, reader_node]

/-! ### Fields -/

/-- `active` as a flag. -/
def activeFlag (active : Bool) : Flag :=
  if d.activeIsNumber then .number (if active then 1 else 0) else .literal active

/-- `active` is read as it is written. -/
theorem reader_encodeActive (active : Bool) :
    Flag.reader.value (d.encodeActive active) = .ok (d.activeFlag active) := by
  cases d <;> cases active <;> rfl

theorem isSet_activeFlag (active : Bool) : (d.activeFlag active).isSet = active := by
  cases d <;> cases active <;> rfl

/-- The fields of a slot as a body holds them. -/
def slotFields (s : Slot) : SlotFields where
  active := d.activeFlag s.active
  startHour := Int64.ofInt s.startHour.toNat
  startMinute := Int64.ofInt s.startMinute.toNat
  endHour := Int64.ofInt s.endHour.toNat
  endMinute := Int64.ofInt s.endMinute.toNat
  outputAt0 := Int64.ofInt s.outputAt0.toNat
  outputAt100 := Int64.ofInt s.outputAt100.toNat

/-- The fields of a slot describe it, held within its ranges. -/
theorem toSlot_slotFields (s : Slot) (id : SlotId) :
    (d.slotFields s).toSlot id = { s with id }.sanitize := by
  simp [SlotFields.toSlot, slotFields, isSet_activeFlag, clampByte_255_ofInt]

/-- **The fields of a slot are read as they are written.** -/
theorem reader_slotMembers (s : Slot) :
    SlotFields.reader.value (.object (d.slotMembers s)) = .ok (d.slotFields s) := by
  have hactive {f : Flag → SlotFields → SlotFields} :
      (Flag.reader.map f).value (d.encodeActive s.active) = .ok (f (d.activeFlag s.active)) :=
    Reader.map_value f (d.reader_encodeActive s.active)
  have hbyte {f : Int64 → SlotFields → SlotFields} (x : UInt8) :
      (Reader.int64.map f).value (.integer x.toNat) = .ok (f (Int64.ofInt x.toNat)) := by
    have hx := x.toNat_lt
    exact Reader.map_value f (Reader.map_value Int64.ofInt (Reader.integer_value _ _ _ (by omega)))
  change Record.memberValues _ _ _ _ = _
  rw [slotMembers, Record.memberValues_field rfl (by simp) hactive,
    Record.memberValues_field rfl (by simp) (hbyte _),
    Record.memberValues_field rfl (by simp) (hbyte _),
    Record.memberValues_field rfl (by simp) (hbyte _),
    Record.memberValues_field rfl (by simp) (hbyte _),
    Record.memberValues_field rfl (by simp) (hbyte _),
    Record.memberValues_field rfl (by simp) (hbyte _), Record.memberValues_nil]
  rfl

/-- The number of a slot is no field. -/
theorem reader_encodeSet (s : Slot) :
    SlotFields.reader.value (d.encodeSet s) = .ok (d.slotFields s) := by
  have hinsert : SlotFields.reader.value (d.encodeSet s) =
      SlotFields.reader.value (.object (d.slotMembers s)) :=
    Record.memberValues_insert (by cases d <;> rfl) _ [] _ _
  rw [hinsert, reader_slotMembers]

/-! ### Bodies that are sent -/

/-- A number that is found under the key of a dialect says which slot is meant. -/
theorem decodeSelector_of_get? {body : Value} {id : SlotId}
    (h : body.get? d.selectorKey = some (.integer id.number)) :
    d.decodeSelector body = .ok id := by
  rw [decodeSelector, h]
  cases id <;> rfl

/-- **When a body that sends a slot is read**: it says which slot it means and holds its fields. -/
theorem decodeSet_eq_ok_iff {body : Value} {s : Slot} :
    d.decodeSet body = .ok s ↔ d.decodeSelector body = .ok s.id ∧
      ∃ fields, SlotFields.reader.value body = .ok fields ∧ fields.toSlot s.id = s := by
  rw [decodeSet]
  cases d.decodeSelector body with
  | error e => simp [bind, Except.bind]
  | ok id =>
      simp only [bind, Except.bind]
      cases SlotFields.reader.value body with
      | error cause => simp
      | ok fields =>
          refine ⟨fun h => ?_, ?_⟩
          · obtain rfl := Except.ok.inj h
            exact ⟨rfl, fields, rfl, rfl⟩
          · rintro ⟨hid, _, hfields, hs⟩
            obtain rfl := Except.ok.inj hid
            obtain rfl := Except.ok.inj hfields
            exact congrArg Except.ok hs

/-- **A slot that is sent is read with its number and with each field held within its range.** -/
theorem decodeSet_encodeSet (s : Slot) : d.decodeSet (d.encodeSet s) = .ok s.sanitize := by
  have hid : d.decodeSelector (d.encodeSet s) = .ok s.id :=
    d.decodeSelector_of_get? (Value.lookup?_insert ..)
  exact d.decodeSet_eq_ok_iff.mpr
    ⟨hid, d.slotFields s, d.reader_encodeSet s, d.toSlot_slotFields s s.id⟩

/-- The slot that is to be erased is read. -/
theorem decodeSelector_encodeErase (id : SlotId) :
    d.decodeSelector (d.encodeErase id) = .ok id :=
  d.decodeSelector_of_get? (by simp [encodeErase, Value.get?, Value.lookup?])

/-! ### Texts -/

/-- The keys of the fields, in order. -/
def fieldKeys : List String := ["active", "h_end", "h_start", "m_end", "m_start", "t0", "t100"]

/-- The fields of a slot are in order of their keys. -/
theorem pairwise_slotMembers (s : Slot) :
    (d.slotMembers s).Pairwise fun m m' => m.1 < m'.1 := by
  have hkeys : fieldKeys.Pairwise fun key key' => key < key' := by decide
  exact List.pairwise_map.mp hkeys

/-- The values of the fields are integers and truth values. -/
theorem forall_slotMembers {P : Value → Prop} (hinteger : ∀ i, Value.FitsWord i → P (.integer i))
    (hboolean : ∀ b, P (.boolean b)) (s : Slot) : ∀ m ∈ d.slotMembers s, P m.2 := by
  have hactive : P (d.encodeActive s.active) := by
    rw [encodeActive]
    split
    · exact hinteger _ (Value.fitsWord_ite _)
    · exact hboolean _
  have hbyte (x : UInt8) : P (.integer x.toNat) := hinteger _ (Value.fitsWord_byte x)
  simp [slotMembers, hactive, hbyte]

/-- The number of a slot fits in 64 bits. -/
theorem fitsWord_number (id : SlotId) : Value.FitsWord id.number := by
  cases id <;> exact ⟨by decide, by decide⟩

/-- The values in a body that sends a slot are integers of 64 bits and truth values. -/
theorem forall_encodeSet {P : Value → Prop} (hinteger : ∀ i, Value.FitsWord i → P (.integer i))
    (hboolean : ∀ b, P (.boolean b)) (s : Slot) :
    ∀ m ∈ Value.insert d.selectorKey (.integer s.id.number) (d.slotMembers s), P m.2 := by
  intro m hm
  rcases Value.mem_insert hm with rfl | hm
  · exact hinteger _ (fitsWord_number s.id)
  · exact d.forall_slotMembers hinteger hboolean s m hm

/-- **The text of a body that sends a slot holds what is sent.** -/
theorem holds_encodeSet (s : Slot) : Value.Holds depthLimit (d.encodeSet s) (d.encodeSet s) :=
  Value.holds_object_self (Value.pairwise_insert _ _ (d.pairwise_slotMembers s))
    (d.forall_encodeSet (P := fun v => Value.Holds 126 v v) (fun _ => Value.holds_integer)
      Value.holds_boolean s)

/-- The text of a body that sends a slot takes up at most 400 bytes. -/
theorem length_encodeSet_le (s : Slot) : (Text.bytes (d.encodeSet s).render).length ≤ 400 := by
  have hcount : (Value.insert d.selectorKey (.integer s.id.number) (d.slotMembers s)).length ≤ 8 :=
    Value.length_insert_le ..
  have hkeys : ∀ key ∈ d.selectorKey :: fieldKeys, (utf8 (quoteString key)).length ≤ 20 := by
    cases d <;> decide
  have hvalues := d.forall_encodeSet (P := fun v => (utf8 v.chars).length ≤ 20)
    (fun _ => Value.length_integer_le) Value.length_boolean_le s
  refine (Value.length_render_object_le 40 fun m hm => ?_).trans (by omega)
  have hkey : m.1 ∈ d.selectorKey :: fieldKeys := by
    rcases Value.mem_insert hm with rfl | hm
    · exact List.mem_cons_self
    · exact List.mem_cons_of_mem _ (List.mem_map_of_mem hm)
  have := hkeys m.1 hkey
  have := hvalues m hm
  omega

/-- The text of a body that asks for a slot to be erased holds what is asked. -/
theorem holds_encodeErase (id : SlotId) :
    Value.Holds depthLimit (d.encodeErase id) (d.encodeErase id) :=
  Value.holds_object_self (List.pairwise_singleton _ _) fun m hm => by
    rw [List.mem_singleton.mp hm]
    exact Value.holds_integer (fitsWord_number id)

/-- The text of a body that has a slot erased takes up at most 400 bytes. -/
theorem length_encodeErase_le (id : SlotId) :
    (Text.bytes (d.encodeErase id).render).length ≤ 400 := by
  cases d <;> cases id <;> decide

/-! ### Bodies that are given out -/

/-- **A slot that is given out is read with the number that it was asked for by**, and with each
field held within its range. -/
theorem decodeLoaded_encodeLoaded (s : Slot) (id : SlotId) :
    decodeLoaded id (Text.bytes (d.encodeLoaded s).render) = .ok { s with id }.sanitize := by
  have hmembers : Value.MembersHold 126 (d.slotMembers s) (d.slotMembers s) :=
    List.forall₂_same.mpr fun m hm => ⟨rfl, d.forall_slotMembers
      (P := fun v => Value.Holds 126 v v) (fun _ => Value.holds_integer) Value.holds_boolean s m hm⟩
  have hread : SlotFields.reader.ofBytes (Text.bytes (d.encodeLoaded s).render) =
      .ok (d.slotFields s) :=
    (Record.ofBytes_render SlotFields.faithful_record hmembers).trans (d.reader_slotMembers s)
  rw [decodeLoaded, hread]
  exact congrArg Except.ok (d.toSlot_slotFields s id)

end Dialect

end FanControl
