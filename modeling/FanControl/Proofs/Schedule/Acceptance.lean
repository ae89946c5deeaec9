import FanControl.Proofs.Schedule.Dialect

/-!
# What a body that sends a slot may hold

A body that sends a slot says which one it means by a whole number under the key of its dialect. It
is accepted **exactly if** that number is 1, 2 or 3, `active` is a truth value or a whole number,
and all other fields of the slot are whole numbers. Whole numbers are those of 64 bits with a sign,
so none of them is written with a fraction or an exponent. What stands under other keys does not
matter.

Numbers may be far out of range. Each is held within a byte first and within the range of its field
then, which is **the same as holding it within that range at once**.

A body that is not accepted is refused for its number before anything else is looked at.

## Main results

* `SlotFields.reader_eq_ok_iff`: the fields of a slot as they stand in an object;
* `Dialect.decodeSelector_cases`: what the number of a slot may be;
* `Dialect.decodeSet_verdict`: which bodies are accepted, as which slots, and how others are
  refused.
-/

namespace FanControl

open Json

/-! ### Fields under their keys -/

namespace SlotFields

/-- Each field has a key of its own and fills in a part of its own. -/
theorem separate_record : record.Separate where
  pairwise := by
    simp only [record, List.pairwise_cons, List.forall_mem_cons, List.not_mem_nil, false_imp_iff,
      implies_true, List.Pairwise.nil, and_true]
    and_intros
    all_goals first | exact Field.commutes_of_set rfl rfl fun _ _ _ => rfl | decide

/-- The fields stand in a body, each under its key. -/
structure HeldBy (f : SlotFields) (body : Value) : Prop where
  active : body.get? "active" = some f.active.toValue
  startHour : body.get? "h_start" = some (.integer f.startHour.toInt)
  startMinute : body.get? "m_start" = some (.integer f.startMinute.toInt)
  endHour : body.get? "h_end" = some (.integer f.endHour.toInt)
  endMinute : body.get? "m_end" = some (.integer f.endMinute.toInt)
  outputAt0 : body.get? "t0" = some (.integer f.outputAt0.toInt)
  outputAt100 : body.get? "t100" = some (.integer f.outputAt100.toInt)

/-- **What is read from an object is what stands under the keys of the fields.** -/
theorem reader_eq_ok_iff {members : List (String × Value)} (hkeys : DistinctKeys members)
    {f : SlotFields} : reader.value (.object members) = .ok f ↔ f.HeldBy (.object members) := by
  change record.memberValues [] record.blank members = .ok f ↔ _
  rw [separate_record.memberValues_eq_ok_iff hkeys]
  simp only [record, Record.fieldValues_required, Record.fieldValues_nil, Flag.reader_eq_ok_iff,
    Reader.int64_value_eq_ok_iff, exists_eq_right, Option.some.injEq]
  refine ⟨?_, fun h => ⟨_, h.active, _, h.startHour, _, h.startMinute, _, h.endHour, _, h.endMinute,
    _, h.outputAt0, _, h.outputAt100, rfl⟩⟩
  rintro ⟨_, hactive, _, hstartHour, _, hstartMinute, _, hendHour, _, hendMinute, _, houtputAt0, _,
    houtputAt100, rfl⟩
  exact ⟨hactive, hstartHour, hstartMinute, hendHour, hendMinute, houtputAt0, houtputAt100⟩

end SlotFields

/-! ### The number of a slot -/

/-- A number outside of the three is refused. -/
theorem SlotId.ofNumber_cases (n : Int64) :
    (∃ id : SlotId, n.toInt = id.number ∧ ofNumber n = .ok id) ∨
      (¬(1 ≤ n.toInt ∧ n.toInt ≤ 3) ∧ ofNumber n = .error (.invalidSlotId n)) := by
  rw [ofNumber]
  by_cases hfirst : n = 1
  · subst hfirst
    exact .inl ⟨.first, rfl, rfl⟩
  by_cases hsecond : n = 2
  · subst hsecond
    exact .inl ⟨.second, rfl, rfl⟩
  by_cases hthird : n = 3
  · subst hthird
    exact .inl ⟨.third, rfl, rfl⟩
  rw [if_neg hfirst, if_neg hsecond, if_neg hthird]
  refine .inr ⟨fun hrange => ?_, rfl⟩
  rw [← Int64.toInt_inj] at hfirst hsecond hthird
  have h1 : (1 : Int64).toInt = 1 := rfl
  have h2 : (2 : Int64).toInt = 2 := rfl
  have h3 : (3 : Int64).toInt = 3 := rfl
  omega

/-- Only objects have members. -/
theorem Json.Value.object_of_get? {body v : Value} {key : String} (h : body.get? key = some v) :
    ∃ members, body = .object members := by
  cases body with
  | object members => exact ⟨members, rfl⟩
  | _ => cases h

/-- The slots have the numbers from 1 to 3. -/
theorem SlotId.number_bounds (id : SlotId) : 1 ≤ id.number ∧ id.number ≤ 3 := by
  cases id <;> decide

namespace Dialect

variable (d : Dialect)

/-- **What the number of a slot may be**: that of a slot, another whole number, or none at all. -/
theorem decodeSelector_cases (body : Value) :
    (∃ id : SlotId, body.get? d.selectorKey = some (.integer id.number) ∧
      d.decodeSelector body = .ok id) ∨
    (∃ n : Int64, body.get? d.selectorKey = some (.integer n.toInt) ∧
      ¬(1 ≤ n.toInt ∧ n.toInt ≤ 3) ∧
      d.decodeSelector body = .error (.invalidId (.invalidSlotId n))) ∨
    (¬(∃ n : Int64, body.get? d.selectorKey = some (.integer n.toInt)) ∧
      d.decodeSelector body = .error (.missingSelector d.selectorKey)) := by
  rw [decodeSelector]
  cases hget : (body.get? d.selectorKey).bind Value.int64? with
  | none =>
      refine .inr (.inr ⟨?_, rfl⟩)
      rintro ⟨n, hn⟩
      rw [hn, Option.bind_some, Value.int64?_toInt] at hget
      cases hget
  | some n =>
      obtain ⟨v, hv, hint⟩ := Option.bind_eq_some_iff.mp hget
      obtain rfl := Value.int64?_eq_some_iff.mp hint
      dsimp only
      rcases SlotId.ofNumber_cases n with ⟨id, hn, hid⟩ | ⟨hrange, hid⟩
      · rw [hid]
        exact .inl ⟨id, hn ▸ hv, rfl⟩
      · rw [hid]
        exact .inr (.inl ⟨n, hv, hrange, rfl⟩)

/-- A body names a slot exactly if it holds the number of the slot under the key of the dialect. -/
theorem decodeSelector_eq_ok_iff {body : Value} {id : SlotId} :
    d.decodeSelector body = .ok id ↔ body.get? d.selectorKey = some (.integer id.number) := by
  refine ⟨fun h => ?_, d.decodeSelector_of_get?⟩
  rcases d.decodeSelector_cases body with ⟨id', hget, hid⟩ | ⟨n, -, -, hid⟩ | ⟨-, hid⟩
  · obtain rfl := Except.ok.inj (hid.symm.trans h)
    exact hget
  · exact nomatch hid.symm.trans h
  · exact nomatch hid.symm.trans h

/-- The number is missing if there is no whole number. -/
theorem decodeSelector_eq_missing_iff {body : Value} :
    d.decodeSelector body = .error (.missingSelector d.selectorKey) ↔
      ¬∃ n : Int64, body.get? d.selectorKey = some (.integer n.toInt) := by
  rcases d.decodeSelector_cases body with ⟨id, hget, hid⟩ | ⟨n, hget, -, hid⟩ | ⟨hget, hid⟩
  · have hnumber : ∃ n : Int64, body.get? d.selectorKey = some (.integer n.toInt) := by
      cases id
      · exact ⟨1, hget⟩
      · exact ⟨2, hget⟩
      · exact ⟨3, hget⟩
    simp [hid, hnumber]
  · simp [hid, show ∃ n : Int64, body.get? d.selectorKey = some (.integer n.toInt) from ⟨n, hget⟩]
  · simp [hid, hget]

/-- A whole number that is the number of no slot is refused. -/
theorem decodeSelector_eq_invalid_iff {body : Value} {n : Int64} :
    d.decodeSelector body = .error (.invalidId (.invalidSlotId n)) ↔
      body.get? d.selectorKey = some (.integer n.toInt) ∧ ¬(1 ≤ n.toInt ∧ n.toInt ≤ 3) := by
  have hsame {i : Int} (hget : body.get? d.selectorKey = some (.integer i)) :
      body.get? d.selectorKey = some (.integer n.toInt) ↔ i = n.toInt := by
    simp [hget, Value.integer]
  rcases d.decodeSelector_cases body with ⟨id, hget, hid⟩ | ⟨m, hget, hrange, hid⟩ | ⟨hget, hid⟩
  · have hnumber := id.number_bounds
    rw [hid, hsame hget]
    simp only [reduceCtorEq, false_iff, not_and]
    omega
  · rw [hid, hsame hget, Int64.toInt_inj]
    simp only [Except.error.injEq, SlotError.invalidId.injEq, InputError.invalidSlotId.injEq]
    exact (and_iff_left_of_imp fun heq => heq ▸ hrange).symm
  · rw [hid]
    simp only [Except.error.injEq, reduceCtorEq, false_iff, not_and]
    exact fun hn => absurd ⟨n, hn⟩ hget

/-- **How a body that sends a slot is refused**: for the number of the slot, or for its fields once
the number is that of a slot. -/
theorem decodeSet_eq_error_iff {body : Value} {e : SlotError} :
    d.decodeSet body = .error e ↔ d.decodeSelector body = .error e ∨
      ∃ id cause, d.decodeSelector body = .ok id ∧ SlotFields.reader.value body = .error cause ∧
        e = .malformed cause := by
  rw [decodeSet]
  cases d.decodeSelector body with
  | error e' => simp [bind, Except.bind]
  | ok id =>
      cases SlotFields.reader.value body <;>
        simp [bind, Except.bind, pure, Except.pure, eq_comm]

end Dialect

/-! ### Slots as they are sent -/

/-- A whole number stands under a key, and the nearest number from 0 to `top` is `x`. -/
def Json.Value.HoldsWithin (body : Value) (key : String) (top : Int) (x : UInt8) : Prop :=
  ∃ i : Int64, body.get? key = some (.integer i.toInt) ∧ (x.toNat : Int) = max 0 (min top i.toInt)

/-- No more than one number is the nearest one to what stands under a key. -/
theorem Json.Value.HoldsWithin.unique {body : Value} {key : String} {top : Int} {x y : UInt8}
    (hx : body.HoldsWithin key top x) (hy : body.HoldsWithin key top y) : x = y := by
  obtain ⟨i, hi, hx⟩ := hx
  obtain ⟨j, hj, hy⟩ := hy
  have hsame : i.toInt = j.toInt :=
    Number.integer.inj (Value.number.inj (Option.some.inj (hi.symm.trans hj)))
  rw [← UInt8.toNat_inj]
  omega

/-- A body says all of a slot. -/
structure Dialect.Sends (d : Dialect) (body : Value) (s : Slot) : Prop where
  id : body.get? d.selectorKey = some (.integer s.id.number)
  active : body.get? "active" = some (.boolean s.active) ∨
    ∃ i : Int64, body.get? "active" = some (.integer i.toInt) ∧ s.active = (i != 0)
  startHour : body.HoldsWithin "h_start" 23 s.startHour
  startMinute : body.HoldsWithin "m_start" 59 s.startMinute
  endHour : body.HoldsWithin "h_end" 23 s.endHour
  endMinute : body.HoldsWithin "m_end" 59 s.endMinute
  outputAt0 : body.HoldsWithin "t0" 100 s.outputAt0
  outputAt100 : body.HoldsWithin "t100" 100 s.outputAt100

/-- A body has what a slot needs, whatever the numbers are. -/
structure Dialect.Acceptable (d : Dialect) (body : Value) : Prop where
  selector : ∃ n : Int, 1 ≤ n ∧ n ≤ 3 ∧ body.get? d.selectorKey = some (.integer n)
  active : (∃ b, body.get? "active" = some (.boolean b)) ∨
    ∃ i : Int64, body.get? "active" = some (.integer i.toInt)
  numbers : ∀ key ∈ ["h_start", "m_start", "h_end", "m_end", "t0", "t100"],
    ∃ i : Int64, body.get? key = some (.integer i.toInt)

namespace Dialect

variable {d : Dialect} {body : Value}

/-- `active` is what the flag of a body says. -/
theorem active_iff {f : SlotFields} (hf : f.HeldBy body) {active : Bool} :
    f.active.isSet = active ↔ body.get? "active" = some (.boolean active) ∨
      ∃ i : Int64, body.get? "active" = some (.integer i.toInt) ∧ active = (i != 0) := by
  rw [hf.active]
  cases f.active with
  | literal b => simp [Flag.isSet, Flag.toValue, Value.integer]
  | number i =>
      have hsame (j : Int64) : i.toInt = j.toInt ↔ i = j := Int64.toInt_inj
      simp [Flag.isSet, Flag.toValue, Value.integer, hsame, eq_comm]

/-- **The slot that the fields of a body describe is the one that the body sends.** -/
theorem sends_toSlot {f : SlotFields} (hf : f.HeldBy body) {id : SlotId}
    (hid : body.get? d.selectorKey = some (.integer id.number)) : d.Sends body (f.toSlot id) where
  id := hid
  active := (active_iff hf).mp rfl
  startHour := ⟨_, hf.startHour, toNat_min_clampByte 23 _⟩
  startMinute := ⟨_, hf.startMinute, toNat_min_clampByte 59 _⟩
  endHour := ⟨_, hf.endHour, toNat_min_clampByte 23 _⟩
  endMinute := ⟨_, hf.endMinute, toNat_min_clampByte 59 _⟩
  outputAt0 := ⟨_, hf.outputAt0, toNat_min_clampByte 100 _⟩
  outputAt100 := ⟨_, hf.outputAt100, toNat_min_clampByte 100 _⟩

/-- A body sends no other slot than the one that its fields make up. -/
theorem Sends.toSlot_eq {s : Slot} (h : d.Sends body s) {f : SlotFields} (hf : f.HeldBy body) :
    f.toSlot s.id = s := by
  have hslot := sends_toSlot hf h.id
  have hactive : (f.toSlot s.id).active = s.active := (active_iff hf).mpr h.active
  have hstartHour := hslot.startHour.unique h.startHour
  have hstartMinute := hslot.startMinute.unique h.startMinute
  have hendHour := hslot.endHour.unique h.endHour
  have hendMinute := hslot.endMinute.unique h.endMinute
  have houtputAt0 := hslot.outputAt0.unique h.outputAt0
  have houtputAt100 := hslot.outputAt100.unique h.outputAt100
  obtain ⟨id, active, startHour, startMinute, endHour, endMinute, outputAt0, outputAt100⟩ := s
  exact (Slot.mk.injEq ..).mpr ⟨rfl, hactive, hstartHour, hstartMinute, hendHour, hendMinute,
    houtputAt0, houtputAt100⟩

/-- What a slot needs are its fields. -/
theorem Acceptable.exists_heldBy (h : d.Acceptable body) : ∃ f : SlotFields, f.HeldBy body := by
  obtain ⟨startHour, hstartHour⟩ := h.numbers "h_start" (by simp)
  obtain ⟨startMinute, hstartMinute⟩ := h.numbers "m_start" (by simp)
  obtain ⟨endHour, hendHour⟩ := h.numbers "h_end" (by simp)
  obtain ⟨endMinute, hendMinute⟩ := h.numbers "m_end" (by simp)
  obtain ⟨outputAt0, houtputAt0⟩ := h.numbers "t0" (by simp)
  obtain ⟨outputAt100, houtputAt100⟩ := h.numbers "t100" (by simp)
  obtain ⟨flag, hflag⟩ : ∃ flag : Flag, body.get? "active" = some flag.toValue := by
    rcases h.active with ⟨b, hb⟩ | ⟨i, hi⟩
    · exact ⟨.literal b, hb⟩
    · exact ⟨.number i, hi⟩
  exact ⟨⟨flag, startHour, startMinute, endHour, endMinute, outputAt0, outputAt100⟩, hflag,
    hstartHour, hstartMinute, hendHour, hendMinute, houtputAt0, houtputAt100⟩

/-- A body that sends a slot has what the slot needs. -/
theorem Sends.acceptable {s : Slot} (h : d.Sends body s) : d.Acceptable body where
  selector := by
    have hbounds := s.id.number_bounds
    exact ⟨s.id.number, by omega, by omega, h.id⟩
  active := h.active.imp (fun hb => ⟨_, hb⟩) fun ⟨i, hi, _⟩ => ⟨i, hi⟩
  numbers := by
    have forget {key : String} {top : Int} {x : UInt8} (hx : body.HoldsWithin key top x) :
        ∃ i : Int64, body.get? key = some (.integer i.toInt) := hx.imp fun _ => And.left
    simp [forget h.startHour, forget h.startMinute, forget h.endHour, forget h.endMinute,
      forget h.outputAt0, forget h.outputAt100]

/-! ### The verdict -/

/-- The fields of a body are read. -/
theorem decodeSet_of_heldBy (hkeys : body.DistinctKeys) {f : SlotFields} (hf : f.HeldBy body)
    {id : SlotId} (hid : body.get? d.selectorKey = some (.integer id.number)) :
    d.decodeSet body = .ok (f.toSlot id) := by
  obtain ⟨members, rfl⟩ := Value.object_of_get? hid
  exact d.decodeSet_eq_ok_iff.mpr
    ⟨d.decodeSelector_of_get? hid, f, (SlotFields.reader_eq_ok_iff hkeys).mpr hf, rfl⟩

/-- **A body is read as the slot that it sends.** -/
theorem decodeSet_eq_ok_iff_sends (hkeys : body.DistinctKeys) {s : Slot} :
    d.decodeSet body = .ok s ↔ d.Sends body s := by
  refine ⟨fun h => ?_, fun h => ?_⟩
  · obtain ⟨hid, f, hfields, hs⟩ := d.decodeSet_eq_ok_iff.mp h
    have hget := d.decodeSelector_eq_ok_iff.mp hid
    obtain ⟨members, rfl⟩ := Value.object_of_get? hget
    exact hs ▸ sends_toSlot ((SlotFields.reader_eq_ok_iff hkeys).mp hfields) hget
  · obtain ⟨f, hf⟩ := h.acceptable.exists_heldBy
    rw [decodeSet_of_heldBy hkeys hf h.id, h.toSlot_eq hf]

/-- **A body is read exactly if it has what a slot needs.** -/
theorem exists_decodeSet_eq_ok_iff (hkeys : body.DistinctKeys) :
    (∃ s, d.decodeSet body = .ok s) ↔ d.Acceptable body := by
  refine ⟨fun ⟨s, hs⟩ => ((decodeSet_eq_ok_iff_sends hkeys).mp hs).acceptable, fun h => ?_⟩
  obtain ⟨f, hf⟩ := h.exists_heldBy
  obtain ⟨n, hlow, hhigh, hn⟩ := h.selector
  obtain ⟨id, hid⟩ : ∃ id : SlotId, (id.number : Int) = n := by
    obtain rfl | rfl | rfl : n = 1 ∨ n = 2 ∨ n = 3 := by omega
    · exact ⟨.first, rfl⟩
    · exact ⟨.second, rfl⟩
    · exact ⟨.third, rfl⟩
  exact ⟨_, decodeSet_of_heldBy hkeys hf (hid ▸ hn)⟩

variable (d)

/-- **Which bodies are accepted, as which slots, and how others are refused**, for every value in
which no key comes twice, and so for every value that has been read. It is accepted as a slot
exactly if it sends that slot, each number held within its range, and there is one exactly if the
number of the slot is 1, 2 or 3, `active` is a truth value or a whole number, and the other fields
are whole numbers. Without a whole number under the key of the dialect the number of the slot is
missing, with one outside of the three it is refused, and the fields are found fault with only if
the number is that of a slot. -/
theorem decodeSet_verdict (body : Value) (hkeys : body.DistinctKeys) :
    (∀ s, d.decodeSet body = .ok s ↔ d.Sends body s) ∧
    ((∃ s, d.decodeSet body = .ok s) ↔ d.Acceptable body) ∧
    (d.decodeSet body = .error (.missingSelector d.selectorKey) ↔
      ¬∃ n : Int64, body.get? d.selectorKey = some (.integer n.toInt)) ∧
    (∀ n : Int64, d.decodeSet body = .error (.invalidId (.invalidSlotId n)) ↔
      body.get? d.selectorKey = some (.integer n.toInt) ∧ ¬(1 ≤ n.toInt ∧ n.toInt ≤ 3)) ∧
    ∀ e, d.decodeSet body = .error e →
      e = .missingSelector d.selectorKey ∨ (∃ n, e = .invalidId (.invalidSlotId n)) ∨
      ∃ cause, e = .malformed cause ∧
        ∃ n : Int, 1 ≤ n ∧ n ≤ 3 ∧ body.get? d.selectorKey = some (.integer n) := by
  refine ⟨fun s => decodeSet_eq_ok_iff_sends hkeys, exists_decodeSet_eq_ok_iff hkeys, ?_, ?_, ?_⟩
  · rw [← decodeSelector_eq_missing_iff]
    simp [decodeSet_eq_error_iff]
  · intro n
    rw [← decodeSelector_eq_invalid_iff]
    simp [decodeSet_eq_error_iff]
  · intro e he
    rcases d.decodeSet_eq_error_iff.mp he with hselector | ⟨id, cause, hid, -, rfl⟩
    · rcases d.decodeSelector_cases body with ⟨id, -, hid⟩ | ⟨n, -, -, hid⟩ | ⟨-, hid⟩
      · exact nomatch hid.symm.trans hselector
      · exact .inr (.inl ⟨n, Except.error.inj (hselector.symm.trans hid)⟩)
      · exact .inl (Except.error.inj (hselector.symm.trans hid))
    · have hbounds := id.number_bounds
      exact .inr (.inr ⟨cause, rfl, id.number, by omega, by omega,
        d.decodeSelector_eq_ok_iff.mp hid⟩)

/-- A body with numbers at the borders of 64 bits, and with a key that no slot has. -/
def borderBody : Value := .object [("active", .integer (-3)), ("h_end", .integer 0x7FFFFFFFFFFFFFFF),
  ("h_start", .integer (-0x8000000000000000)), ("id", .integer 3), ("m_end", .integer 256),
  ("m_start", .integer 59), ("note", .null), ("t0", .integer 0), ("t100", .integer 1000)]

/-- The body at the borders is accepted in one dialect and misses its number in the other. -/
theorem decodeSet_verdict_borderBody : borderBody.DistinctKeys ∧
    program.decodeSet borderBody = .ok ⟨.third, true, 0, 59, 23, 59, 0, 100⟩ ∧
    programSlot.decodeSet borderBody = .error (.missingSelector "slot") := by
  have hkeys : borderBody.DistinctKeys := by
    change List.Nodup _
    decide
  have hsends : program.Sends borderBody ⟨.third, true, 0, 59, 23, 59, 0, 100⟩ :=
    { id := rfl
      active := .inr ⟨-3, rfl, rfl⟩
      startHour := ⟨-0x8000000000000000, rfl, rfl⟩
      startMinute := ⟨59, rfl, rfl⟩
      endHour := ⟨0x7FFFFFFFFFFFFFFF, rfl, rfl⟩
      endMinute := ⟨256, rfl, rfl⟩
      outputAt0 := ⟨0, rfl, rfl⟩
      outputAt100 := ⟨1000, rfl, rfl⟩ }
  have hmissing : ¬∃ n : Int64, borderBody.get? programSlot.selectorKey = some (.integer n.toInt) :=
    fun ⟨_, hn⟩ => nomatch hn
  exact ⟨hkeys, ((decodeSet_verdict program borderBody hkeys).1 _).mpr hsends,
    (decodeSet_verdict programSlot borderBody hkeys).2.2.1.mpr hmissing⟩

end Dialect

end FanControl
