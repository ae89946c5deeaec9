import FanControl.Json.Record
import FanControl.Proofs.Json.Value

/-!
# Records as values

A body is read straight from its text, or from the value that the text holds. A reader is `Faithful`
if this makes no difference to it. All readers of single fields are faithful, and **a record of
faithful fields reads from a text what it reads from its members**, in the order in which they
stand. So it is enough to know what a record reads from members, each of which fills in its part.

## Main results

* `Reader.faithful_int64` and its like: readers of fields;
* `Record.ofBytes_render`: the text of a body;
* `Record.memberValues_field`, `Record.memberValues_optional`: one member of a record, and one that
  may be left out.
-/

namespace FanControl.Json

open FloatingPoint

/-! ### Nodes that hold a value -/

/-- A string that is cut off stands for nothing. -/
theorem decodePieces_cut (fault : Fault) (before bs : Bytes) (pieces : List Piece) :
    decodePieces (some fault) before pieces ≠ .ok bs := by
  fun_induction decodePieces (some fault) before pieces <;> simp_all

/-- **A node that holds a value is that value with its containers closed**, and can be passed by. -/
theorem Node.plain_of_toValue? {depth : Nat} {n : Node} {v : Value}
    (h : n.toValue? depth = .ok v) : n.plain = .ok v.plain ∧ n.skip = .ok () := by
  cases n with
  | null | boolean =>
      rw [toValue?] at h
      obtain rfl := Except.ok.inj h
      exact ⟨rfl, rfl⟩
  | number t =>
      rw [toValue?] at h
      cases hvalue : t.value? with
      | none =>
          rw [hvalue] at h
          cases h
      | some m =>
          rw [hvalue] at h
          obtain rfl := Except.ok.inj h
          exact ⟨by rw [plain, hvalue]; rfl, rfl⟩
  | string t =>
      rw [toValue?] at h
      cases hdecode : t.decode with
      | error e =>
          rw [hdecode] at h
          cases h
      | ok s =>
          rw [hdecode] at h
          obtain rfl := Except.ok.inj h
          refine ⟨by rw [plain, hdecode]; rfl, ?_⟩
          rw [skip]
          obtain ⟨bs, hbytes, -⟩ := bind_eq_ok hdecode
          cases hcut : t.cut with
          | none => rfl
          | some fault => exact absurd (hcut ▸ hbytes) (decodePieces_cut fault [] bs t.pieces)
  | array items ending =>
      cases depth with
      | zero => cases h
      | succ depth =>
          rw [toValue?] at h
          obtain ⟨values, -, h⟩ := bind_eq_ok h
          obtain ⟨_, hending, h⟩ := bind_eq_ok h
          obtain rfl := Except.ok.inj h
          exact ⟨rfl, hending⟩
  | object members ending =>
      cases depth with
      | zero => cases h
      | succ depth =>
          rw [toValue?] at h
          obtain ⟨values, -, h⟩ := bind_eq_ok h
          obtain ⟨_, hending, h⟩ := bind_eq_ok h
          obtain rfl := Except.ok.inj h
          exact ⟨rfl, hending⟩
  | keyless first => cases h
  | broken kept skipped => cases h

/-- **Only `null` looks like `null`, and only what opens like an object looks like one.** -/
theorem Node.of_plain {n : Node} {p : Plain} (h : n.plain = .ok p) :
    (p = .null → n = .null) ∧
      (p = .map → (∃ nodes ending, n = .object nodes ending) ∨ ∃ first, n = .keyless first) := by
  cases n with
  | null => exact ⟨fun _ => rfl, fun hp => nomatch hp ▸ h⟩
  | object nodes ending => exact ⟨fun hp => (nomatch hp ▸ h), fun _ => .inl ⟨nodes, ending, rfl⟩⟩
  | keyless first => exact ⟨fun hp => (nomatch hp ▸ h), fun _ => .inr ⟨first, rfl⟩⟩
  | number t =>
      rw [plain] at h
      split at h
      · obtain rfl := Except.ok.inj h
        exact ⟨nofun, nofun⟩
      · cases h
  | string t =>
      rw [plain] at h
      cases hdecode : t.decode with
      | error e =>
          rw [hdecode] at h
          cases h
      | ok s =>
          rw [hdecode] at h
          obtain rfl := Except.ok.inj h
          exact ⟨nofun, nofun⟩
  | broken kept skipped => cases h
  | boolean | array => exact ⟨fun hp => (nomatch hp ▸ h), fun hp => (nomatch hp ▸ h)⟩

/-- Only the node `null` has the plain value `null`. -/
theorem Node.eq_null_of_plain {n : Node} (h : n.plain = .ok .null) : n = .null :=
  (of_plain h).1 rfl

/-- Only the node of an object has an object as its value. -/
theorem Node.object_of_toValue? {depth : Nat} {n : Node} {members : List (String × Value)}
    (h : n.toValue? depth = .ok (.object members)) : ∃ nodes ending, n = .object nodes ending := by
  rcases (of_plain (plain_of_toValue? h).1).2 rfl with hobject | ⟨first, rfl⟩
  · exact hobject
  · cases h

/-! ### Fields -/

namespace Reader

variable {α β : Type}

/-- A reader that reads from a node what it reads from the value that the node holds. -/
structure Faithful (r : Reader α) : Prop where
  read : ∀ {depth : Nat} {n : Node} {v : Value}, n.toValue? depth = .ok v →
    r.node depth n = r.value v

/-- A reader and a way of writing go together if the text of every value gives the value back. -/
def ReadsBack (r : Reader α) (write : α → Value) : Prop :=
  ∀ a, r.ofBytes (Text.bytes (write a).render) = .ok a

/-- A faithful reader reads from a text what it reads from the value that the text holds. -/
theorem Faithful.ofBytes_render {r : Reader α} (h : r.Faithful) {v w : Value}
    (hv : Value.Holds depthLimit v w) : r.ofBytes (Text.bytes v.render) = r.value w := by
  rw [Reader.ofBytes_render]
  exact h.read hv

/-- A changed reader is faithful if the reader is. -/
theorem Faithful.map {r : Reader α} (h : r.Faithful) (f : α → β) : (r.map f).Faithful where
  read hn := congrArg (f <$> ·) (h.read hn)

/-- A reader of values other than containers is faithful. -/
theorem faithful_scalar (f : Plain → Except Mismatch α) : (scalar f).Faithful where
  read hn := by
    rw [scalar]
    simp only [(Node.plain_of_toValue? hn).1, liftFault]
    rfl

theorem faithful_int64 : int64.Faithful := (faithful_scalar _).map _

theorem faithful_int32 : int32.Faithful := (faithful_scalar _).map _

theorem faithful_uint64 : uint64.Faithful := (faithful_scalar _).map _

theorem faithful_uint32 : uint32.Faithful := (faithful_scalar _).map _

theorem faithful_single : single.Faithful := faithful_scalar _

theorem faithful_string : string.Faithful := faithful_scalar _

/-- A reader that tries alternatives on a value is faithful. -/
theorem faithful_firstOf (name : String) (alternatives : List (Value → Option α)) :
    (firstOf name alternatives).Faithful where
  read hn := by
    rw [firstOf]
    simp only [hn, liftFault]
    rfl

/-- A changed reader gives what the reader does, changed. -/
theorem map_value {r : Reader α} {v : Value} {a : α} (f : α → β) (h : r.value v = .ok a) :
    (r.map f).value v = .ok (f a) :=
  congrArg (f <$> ·) h

/-- A changed reader reads exactly what the reader does, and changes it. -/
theorem map_value_eq_ok_iff {r : Reader α} {f : α → β} {v : Value} {b : β} :
    (r.map f).value v = .ok b ↔ ∃ a, r.value v = .ok a ∧ f a = b := by
  change f <$> r.value v = .ok b ↔ _
  cases r.value v <;> simp [Functor.map, Except.map]

/-- A value other than `null` is read the same where it may be absent. -/
theorem optional_value (r : Reader α) {v : Value} (hv : v ≠ .null) :
    r.optional.value v = some <$> r.value v := by
  cases v with
  | null => exact absurd rfl hv
  | _ => rfl

/-- A reader whose value may be absent is faithful if the reader is. -/
theorem Faithful.optional {r : Reader α} (h : r.Faithful) : r.optional.Faithful := by
  refine ⟨fun {depth n v} hn => ?_⟩
  cases n with
  | null =>
      obtain rfl : .null = v := Except.ok.inj hn
      rfl
  | _ =>
      have hv : v ≠ .null := by
        rintro rfl
        exact Node.noConfusion (Node.eq_null_of_plain (Node.plain_of_toValue? hn).1)
      rw [optional_value r hv]
      exact congrArg (some <$> ·) (h.read hn)

/-- A whole number is read as an integer of a range in which it is. -/
theorem integer_value (name : String) (low high : Int) {i : Int} (hi : low ≤ i ∧ i ≤ high) :
    (integer name low high).value (Value.integer i) = .ok i := by
  simp [integer, scalar, Value.integer, Value.plain, hi, Except.mapError]

/-- Only the whole numbers of a range are read as integers of that range. -/
theorem integer_value_eq_ok_iff {name : String} {low high i : Int} {v : Value} :
    (integer name low high).value v = .ok i ↔ v = .integer i ∧ low ≤ i ∧ i ≤ high := by
  refine ⟨fun h => ?_, fun ⟨hv, hi⟩ => hv ▸ integer_value name low high hi⟩
  match v with
  | .number (.integer n) =>
      by_cases hn : low ≤ n ∧ n ≤ high
      · obtain rfl : n = i := Except.ok.inj ((integer_value name low high hn).symm.trans h)
        exact ⟨rfl, hn⟩
      · simp [integer, scalar, Value.plain, hn, Except.mapError] at h

/-- A signed integer of 64 bits is read as it is written. -/
theorem int64_value (i : Int64) : int64.value (Value.integer i.toInt) = .ok i := by
  have hbounds := int64_bounds i
  have hinteger := integer_value "i64" (-0x8000000000000000) 0x7FFFFFFFFFFFFFFF
    (i := i.toInt) (by omega)
  rw [int64, map_value _ hinteger, Int64.ofInt_toInt]

/-- Only the values that are written for integers of 64 bits are read as such. -/
theorem int64_value_eq_ok_iff {v : Value} {i : Int64} :
    int64.value v = .ok i ↔ v = .integer i.toInt := by
  refine ⟨fun h => ?_, fun h => h ▸ int64_value i⟩
  obtain ⟨n, hn, rfl⟩ := map_value_eq_ok_iff.mp h
  obtain ⟨rfl, hlow, hhigh⟩ := integer_value_eq_ok_iff.mp hn
  rw [Int64.toInt_ofInt_of_le (by omega) (by omega)]

/-- A signed integer of 32 bits is read as it is written. -/
theorem int32_value (i : Int32) : int32.value (Value.integer i.toInt) = .ok i := by
  have hbounds := int32_bounds i
  have hinteger := integer_value "i32" (-0x80000000) 0x7FFFFFFF (i := i.toInt)
    (by omega)
  rw [int32, map_value _ hinteger, Int32.ofInt_toInt]

/-- An unsigned integer of 64 bits is read as it is written. -/
theorem uint64_value (i : UInt64) : uint64.value (Value.integer i.toNat) = .ok i := by
  have hlt := i.toNat_lt
  have hinteger := integer_value "u64" 0 0xFFFFFFFFFFFFFFFF (i := i.toNat) (by omega)
  rw [uint64, map_value _ hinteger, Int.toNat_natCast, UInt64.ofNat_toNat]

/-- An unsigned integer of 32 bits is read as it is written. -/
theorem uint32_value (i : UInt32) : uint32.value (Value.integer i.toNat) = .ok i := by
  have hlt := i.toNat_lt
  have hinteger := integer_value "u32" 0 0xFFFFFFFF (i := i.toNat) (by omega)
  rw [uint32, map_value _ hinteger, Int.toNat_natCast, UInt32.ofNat_toNat]

/-- A text is read as it is written. -/
theorem string_value (s : String) : string.value (.string s) = .ok s := rfl

/-- What is read as it is written is read so where it may be absent. -/
theorem optional_value_map {r : Reader β} {write : β → Value} (hne : ∀ b, write b ≠ .null)
    (h : ∀ b, r.value (write b) = .ok b) (o : Option β) :
    ∀ v ∈ o.map write, r.optional.value v = .ok o := by
  intro v hv
  obtain ⟨b, rfl, rfl⟩ := Option.map_eq_some_iff.mp hv
  rw [optional_value r (hne b), h b]
  rfl

/-- An integer of 64 bits that may be absent is read as it is written. -/
theorem optional_int64_value (o : Option Int64) :
    ∀ v ∈ o.map fun i => Value.integer i.toInt, int64.optional.value v = .ok o :=
  optional_value_map (fun _ => Value.noConfusion) int64_value o

/-- A single-precision number is read from any number. -/
theorem single_value (n : Number) : ∃ x, single.value (.number n) = .ok x := by
  cases n <;> exact ⟨_, rfl⟩

end Reader

namespace Field

variable {α β : Type} {reader : Reader β}

/-- The fields of a record read what their readers do. -/
theorem faithful_required (h : reader.Faithful) (key : String) (set : β → α → α) :
    (required key reader set).fill.Faithful := h.map set

theorem faithful_withDefault (h : reader.Faithful) (key : String) (set : β → α → α) :
    (withDefault key reader set).fill.Faithful := h.map set

theorem faithful_optional (h : reader.Faithful) (key : String) (set : Option β → α → α) :
    (optional key reader set).fill.Faithful := h.optional.map set

/-- A field that may be absent sets what its reader reads. -/
theorem withDefault_node {depth : Nat} {n : Node} {b : β} (h : reader.node depth n = .ok b)
    (key : String) (set : β → α → α) :
    (withDefault key reader set).fill.node depth n = .ok (set b) :=
  congrArg (set <$> ·) h

end Field

/-! ### Members -/

namespace Record

variable {α : Type} {r : Record α}

section Nodes

variable {depth : Nat} {present : List String} {text : StringText} {key : String} {n : Node}
  (rest : List (StringText × Node)) (ending : Ending)

/-- **A member of a document that has a field fills in its part.** -/
theorem memberNodes_field {f : Field α} {fill : α → α} (hkey : text.decode = .ok key)
    (hfield : r.field? key = some f) (habsent : key ∉ present)
    (hfill : f.fill.node depth n = .ok fill) (a : α) :
    r.memberNodes depth present a ((text, n) :: rest) ending =
      r.memberNodes depth (key :: present) (fill a) rest ending := by
  rw [memberNodes]
  simp [hkey, hfield, habsent, hfill, liftFault, bind, Except.bind]

/-- **A member of a document that has no field is passed by**, if only its value comes to an
end. -/
theorem memberNodes_other (hkey : text.decode = .ok key) (hfield : r.field? key = none)
    (hskip : n.skip = .ok ()) (a : α) :
    r.memberNodes depth present a ((text, n) :: rest) ending =
      r.memberNodes depth present a rest ending := by
  rw [memberNodes]
  simp [hkey, hfield, hskip, liftFault, bind, Except.bind]

end Nodes

/-- **A record of faithful fields reads from the members of a document what it reads from the
members that they hold**, in the order in which they stand. -/
theorem memberNodes_eq (hfields : ∀ f ∈ r.fields, f.fill.Faithful) {depth : Nat}
    {nodes : List (StringText × Node)} {members : List (String × Value)}
    (h : Node.MembersHold depth nodes members) (present : List String) (a : α) :
    r.memberNodes depth present a nodes .closed = r.memberValues present a members := by
  induction h generalizing present a with
  | nil => rfl
  | @cons m m' nodes members hm hrest ih =>
      obtain ⟨text, n⟩ := m
      obtain ⟨key, v⟩ := m'
      obtain ⟨hkey, hv⟩ : text.decode = .ok key ∧ n.toValue? depth = .ok v := hm
      rw [memberNodes, memberValues]
      simp only [hkey, liftFault, bind, Except.bind]
      cases hfield : r.field? key with
      | none =>
          simp only [(Node.plain_of_toValue? hv).2]
          exact ih present a
      | some f =>
          have hmem : f ∈ r.fields := List.mem_of_find?_eq_some hfield
          dsimp only
          rw [(hfields f hmem).read hv]
          split
          · rfl
          · cases f.fill.value v with
            | error e => rfl
            | ok fill => exact ih _ _

/-- **The text of a body is read as the members that it holds.** -/
theorem ofBytes_render (hfields : ∀ f ∈ r.fields, f.fill.Faithful)
    {members members' : List (String × Value)} (h : Value.MembersHold 126 members members') :
    r.reader.ofBytes (Text.bytes (Value.object members).render) =
      r.memberValues [] r.blank members' := by
  rw [Reader.ofBytes_render]
  exact memberNodes_eq hfields h.nodes [] r.blank

/-- **A member that has a field fills in its part.** -/
theorem memberValues_field {present : List String} {key : String} {f : Field α} {v : Value}
    {fill : α → α} (hfield : r.field? key = some f) (habsent : key ∉ present)
    (hfill : f.fill.value v = .ok fill) (a : α) (rest : List (String × Value)) :
    r.memberValues present a ((key, v) :: rest) =
      r.memberValues (key :: present) (fill a) rest := by
  rw [memberValues]
  simp [hfield, habsent, hfill, bind, Except.bind]

/-- **A member that may be left out fills in its part**, which stays blank if it is. -/
theorem memberValues_optional {β : Type} {present : List String} {key : String}
    {reader : Reader β} {set : Option β → α → α}
    (hfield : r.field? key = some (.optional key reader set)) (habsent : key ∉ present) {a : α}
    {member : Option Value} {b : Option β} (hread : ∀ v ∈ member, reader.optional.value v = .ok b)
    (hnone : member = none → b = none) (hblank : set none a = a) (rest : List (String × Value)) :
    r.memberValues present a (Value.optionalMember key member ++ rest) =
      r.memberValues (member.toList.map (fun _ => key) ++ present) (set b a) rest := by
  cases member with
  | none =>
      rw [hnone rfl, hblank]
      rfl
  | some v =>
      have hfill : (Field.optional key reader set).fill.value v = .ok (set b) :=
        Reader.map_value set (hread v rfl)
      exact memberValues_field hfield habsent hfill a rest

/-- A member that has no field is passed by. -/
theorem memberValues_other {present : List String} {key : String} (hfield : r.field? key = none)
    (v : Value) (a : α) (rest : List (String × Value)) :
    r.memberValues present a ((key, v) :: rest) = r.memberValues present a rest := by
  rw [memberValues]
  simp [hfield]

/-- A member that has no field is passed by wherever it stands. -/
theorem memberValues_insert {key : String} (hfield : r.field? key = none) (v : Value)
    (present : List String) (a : α) (members : List (String × Value)) :
    r.memberValues present a (Value.insert key v members) = r.memberValues present a members := by
  induction members generalizing present a with
  | nil => exact memberValues_other hfield v a []
  | cons m members ih =>
      obtain ⟨k, w⟩ := m
      rw [Value.insert]
      split
      · exact memberValues_other hfield v a _
      · split
        · next heq => rw [memberValues_other hfield, memberValues_other (heq ▸ hfield)]
        · rw [memberValues, memberValues]
          cases r.field? k with
          | none => exact ih present a
          | some f =>
              dsimp only
              split
              · rfl
              · cases f.fill.value w with
                | error e => rfl
                | ok fill => exact ih _ _

/-- When there are no more members, the record is finished. -/
theorem memberValues_nil (present : List String) (a : α) :
    r.memberValues present a [] = r.finish present a := rfl

end Record

end FanControl.Json
