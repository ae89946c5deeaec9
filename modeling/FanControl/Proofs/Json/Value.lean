import FanControl.Proofs.Clamp
import FanControl.Proofs.Json.Document
import Mathlib.Data.List.Forall2

/-!
# Printed values

A text **holds** the value that is read from it. What the text of a value holds is mostly the value
itself. But members come out in order of their keys, a number that is not finite as `null`, and a
single-precision number as one of double precision.

## Main results

* `Value.Holds`: the value that a printed value is read as, by the rules `holds_integer` up to
  `holds_object`;
* `Value.Holds.ofBytes?_render`: what is read from the text;
* `Node.toValue?_object_eq_ok_iff`: the value that an object of any text is;
* `Value.length_render_object_le`: how long the text of an object is.
-/

namespace FanControl.Json

open FloatingPoint
open Text (utf8)

namespace Value

/-! ### Members in order -/

/-- A key beyond all others is put at the end. -/
theorem insert_of_lt {key : String} (value : Value) {members : List (String × Value)}
    (h : ∀ m ∈ members, m.1 < key) : insert key value members = members ++ [(key, value)] := by
  induction members with
  | nil => rfl
  | cons m members ih =>
      have hm : m.1 < key := h m List.mem_cons_self
      have hne : key ≠ m.1 := fun heq => String.lt_irrefl key (heq ▸ hm)
      obtain ⟨k, v⟩ := m
      rw [insert, if_neg (String.lt_asymm hm), if_neg hne,
        ih fun m hm => h m (List.mem_cons_of_mem _ hm)]
      rfl

/-- Members beside one that is put among them are the old ones. -/
theorem mem_insert {key : String} {value : Value} {members : List (String × Value)}
    {m : String × Value} (h : m ∈ insert key value members) : m = (key, value) ∨ m ∈ members := by
  induction members with
  | nil => exact .inl (List.mem_singleton.mp h)
  | cons m' members ih =>
      obtain ⟨k, v⟩ := m'
      rw [insert] at h
      split at h
      · exact List.mem_cons.mp h
      · split at h
        · exact (List.mem_cons.mp h).imp_right (List.mem_cons_of_mem _)
        · rcases List.mem_cons.mp h with rfl | h
          · exact .inr List.mem_cons_self
          · exact (ih h).imp_right (List.mem_cons_of_mem _)

/-- A member that is put in its place keeps the order of keys. -/
theorem pairwise_insert (key : String) (value : Value) {members : List (String × Value)}
    (h : members.Pairwise fun m m' => m.1 < m'.1) :
    (insert key value members).Pairwise fun m m' => m.1 < m'.1 := by
  induction members with
  | nil => exact List.pairwise_singleton _ _
  | cons m members ih =>
      obtain ⟨k, v⟩ := m
      obtain ⟨hfirst, hrest⟩ := List.pairwise_cons.mp h
      rw [insert]
      split
      · next hlt =>
        refine List.pairwise_cons.mpr ⟨fun m hm => ?_, h⟩
        rcases List.mem_cons.mp hm with rfl | hm
        · exact hlt
        · exact String.lt_trans hlt (hfirst m hm)
      · next hge =>
        split
        · next heq => exact List.pairwise_cons.mpr ⟨fun m hm => heq ▸ hfirst m hm, hrest⟩
        · next hne =>
          refine List.pairwise_cons.mpr ⟨fun m hm => ?_, ih hrest⟩
          rcases mem_insert hm with rfl | hm
          · exact Std.lt_of_le_of_ne (String.not_lt.mp hge) (Ne.symm hne)
          · exact hfirst m hm

/-- A member that is put among others is found. -/
theorem lookup?_insert (key : String) (value : Value) (members : List (String × Value)) :
    lookup? key (insert key value members) = some value := by
  induction members with
  | nil => simp [insert, lookup?]
  | cons m members ih =>
      obtain ⟨k, v⟩ := m
      rw [insert]
      split
      · simp [lookup?]
      · split
        · simp [lookup?]
        · next hne =>
          rw [lookup?, List.find?_cons_of_neg (by simpa using Ne.symm hne)]
          exact ih

/-- The members under other keys are found as before. -/
theorem lookup?_insert_of_ne {key other : String} (h : other ≠ key) (value : Value)
    (members : List (String × Value)) :
    lookup? other (insert key value members) = lookup? other members := by
  have hskip (v : Value) (rest : List (String × Value)) :
      lookup? other ((key, v) :: rest) = lookup? other rest := by
    rw [lookup?, List.find?_cons_of_neg (by simpa using Ne.symm h)]
    rfl
  induction members with
  | nil => exact hskip value []
  | cons m members ih =>
      obtain ⟨k, v⟩ := m
      rw [insert]
      split
      · exact hskip value _
      · split
        · next heq => rw [hskip, ← heq, hskip]
        · rw [lookup?, lookup?, List.find?_cons, List.find?_cons]
          split
          · rfl
          · exact ih

/-- An inserted member makes the members of an object one more at most. -/
theorem length_insert_le (key : String) (value : Value) (members : List (String × Value)) :
    (insert key value members).length ≤ members.length + 1 := by
  induction members with
  | nil => exact Nat.le_refl _
  | cons m members ih =>
      obtain ⟨k, v⟩ := m
      rw [insert]
      split
      · exact Nat.le_refl _
      · split
        · exact Nat.le_succ _
        · exact Nat.succ_le_succ ih

/-- Members in order of keys. Of equal keys the last one counts. -/
def arrange (members : List (String × Value)) : List (String × Value) :=
  members.foldl (fun before m => insert m.1 m.2 before) []

/-- Members that are in order stay as they are. -/
theorem arrange_of_pairwise {members : List (String × Value)}
    (h : members.Pairwise fun m m' => m.1 < m'.1) : arrange members = members := by
  have hfold (before : List (String × Value))
      (h : (before ++ members).Pairwise fun m m' => m.1 < m'.1) :
      members.foldl (fun before m => insert m.1 m.2 before) before = before ++ members := by
    induction members generalizing before with
    | nil => simp
    | cons m members ih =>
        have hbefore : ∀ m' ∈ before, m'.1 < m.1 := fun m' hm' =>
          (List.pairwise_append.mp h).2.2 m' hm' m List.mem_cons_self
        have hrest : (before ++ [m] ++ members).Pairwise fun m m' => m.1 < m'.1 := by
          simpa using h
        rw [List.foldl_cons, insert_of_lt m.2 hbefore,
          ih (List.pairwise_append.mp hrest).2.1 _ hrest]
        simp
  exact hfold [] h

/-! ### Integers -/

/-- Whether an integer fits in 64 bits, with a sign or without one. -/
def FitsWord (i : Int) : Prop := -0x8000000000000000 ≤ i ∧ i < 0x10000000000000000

theorem fitsWord_int64 (i : Int64) : FitsWord i.toInt := by
  have hbounds := int64_bounds i
  exact ⟨by omega, by omega⟩

theorem int64?_toInt (i : Int64) : int64? (integer i.toInt) = some i := by
  have hbounds := int64_bounds i
  rw [integer, int64?, if_pos (by omega), Int64.ofInt_toInt]

/-- Only an integer within 64 bits is one. -/
theorem int64?_eq_some_iff {v : Value} {i : Int64} : v.int64? = some i ↔ v = integer i.toInt := by
  refine ⟨fun h => ?_, fun h => h ▸ int64?_toInt i⟩
  match v with
  | .number (.integer n) =>
      rw [int64?] at h
      split at h
      · next hn =>
        obtain rfl := Option.some.inj h
        rw [Int64.toInt_ofInt_of_le (by omega) (by omega), integer]
      · cases h

theorem fitsWord_int32 (i : Int32) : FitsWord i.toInt := by
  have hbounds := int32_bounds i
  exact ⟨by omega, by omega⟩

theorem int64?_int32 (i : Int32) : int64? (integer i.toInt) = some (Int64.ofInt i.toInt) := by
  have hbounds := int32_bounds i
  rw [integer, int64?, if_pos (by omega)]

theorem fitsWord_byte (x : UInt8) : FitsWord x.toNat := by
  have hhigh := x.toNat_lt
  exact ⟨by omega, by omega⟩

theorem fitsWord_uint64 (i : UInt64) : FitsWord i.toNat := by
  have hhigh := i.toNat_lt
  exact ⟨by omega, by omega⟩

theorem fitsWord_uint32 (i : UInt32) : FitsWord i.toNat := by
  have hhigh := i.toNat_lt
  exact ⟨by omega, by omega⟩

theorem fitsWord_ite (p : Prop) [Decidable p] : FitsWord (if p then 1 else 0) := by
  split <;> exact ⟨by decide, by decide⟩

end Value

/-! ### What members of a document hold -/

namespace Node

variable {depth : Nat}

/-- Members of a document hold members under the same keys. -/
def MembersHold (depth : Nat) : List (StringText × Node) → List (String × Value) → Prop :=
  List.Forall₂ fun m m' => m.1.decode = .ok m'.1 ∧ m.2.toValue? depth = .ok m'.2

/-- **What the members of a document hold is put in order**, one after another. -/
theorem memberValues_eq_ok_iff {before values : List (String × Value)}
    {nodes : List (StringText × Node)} :
    memberValues depth before nodes = .ok values ↔ ∃ members, MembersHold depth nodes members ∧
      members.foldl (fun before m => Value.insert m.1 m.2 before) before = values := by
  induction nodes generalizing before with
  | nil =>
      rw [memberValues, Except.ok.injEq]
      refine ⟨fun h => ⟨[], .nil, h⟩, ?_⟩
      rintro ⟨_, hmembers, hfold⟩
      cases hmembers
      exact hfold
  | cons m nodes ih =>
      obtain ⟨key, node⟩ := m
      rw [memberValues]
      refine ⟨fun h => ?_, ?_⟩
      · obtain ⟨key, hkey, h⟩ := bind_eq_ok h
        obtain ⟨value, hvalue, h⟩ := bind_eq_ok h
        obtain ⟨members, hmembers, hfold⟩ := ih.mp h
        exact ⟨(key, value) :: members, .cons ⟨hkey, hvalue⟩ hmembers, hfold⟩
      · rintro ⟨_, hmembers, hfold⟩
        cases hmembers with
        | cons hm hrest =>
            simp only [hm.1, hm.2, bind, Except.bind]
            exact ih.mpr ⟨_, hrest, hfold⟩

/-- **When an object is a value**: it is closed, and its members hold members. -/
theorem toValue?_object_eq_ok_iff {nodes : List (StringText × Node)} {ending : Ending} {v : Value} :
    (object nodes ending).toValue? (depth + 1) = .ok v ↔ ending = .closed ∧
      ∃ members, MembersHold depth nodes members ∧ .object (Value.arrange members) = v := by
  rw [toValue?]
  refine ⟨fun h => ?_, ?_⟩
  · obtain ⟨values, hvalues, h⟩ := bind_eq_ok h
    obtain ⟨_, hending, h⟩ := bind_eq_ok h
    obtain ⟨members, hmembers, rfl⟩ := memberValues_eq_ok_iff.mp hvalues
    refine ⟨?_, members, hmembers, Except.ok.inj h⟩
    cases ending with
    | closed => rfl
    | _ => cases hending
  · rintro ⟨rfl, members, hmembers, rfl⟩
    rw [memberValues_eq_ok_iff.mpr ⟨members, hmembers, rfl⟩]
    rfl

end Node

namespace Value

/-! ### What a text holds -/

/-- The text of `v` holds the value `w`, with containers nested at most so deep. -/
def Holds (depth : Nat) (v w : Value) : Prop := v.node.toValue? depth = .ok w

/-- The texts of members hold members under the same keys. -/
def MembersHold (depth : Nat) : List (String × Value) → List (String × Value) → Prop :=
  List.Forall₂ fun m m' => m.1 = m'.1 ∧ Holds depth m.2 m'.2

variable {depth : Nat}

/-- What the text of members is read as holds the same. -/
theorem MembersHold.nodes {members members' : List (String × Value)}
    (h : MembersHold depth members members') :
    Node.MembersHold depth (memberNodes members) members' := by
  induction h with
  | nil => exact .nil
  | cons hm _ ih => exact .cons ⟨(StringText.decode_ofString _).trans (congrArg _ hm.1), hm.2⟩ ih

theorem holds_boolean (b : Bool) : Holds depth (.boolean b) (.boolean b) := by
  simp [Holds, node, Node.toValue?]

theorem holds_string (s : String) : Holds depth (.string s) (.string s) := by
  simp [Holds, node, Node.toValue?]

theorem holds_integer {i : Int} (h : FitsWord i) : Holds depth (.integer i) (.integer i) := by
  simp [Holds, integer, node, Number.token_integer, Token.node, Node.toValue?,
    NumberText.value?_ofInt h.1 h.2]

/-- The text of a single-precision number that is not finite holds `null`. -/
theorem holds_single_null {x : Binary32} (h : x.isFinite = false) :
    Holds depth (.number (.single x)) .null := by
  simp [Holds, node, Number.token_single h, Token.node, Node.toValue?]

/-- The text of a finite number in single precision holds some number, at every depth. -/
theorem holds_single {x : Binary32} (h : x.isFinite = true) :
    ∃ n, ∀ depth, Holds depth (.number (.single x)) (.number n) := by
  obtain ⟨t, n, htoken, hvalue⟩ := Number.value?_single h
  exact ⟨n, fun _ => by simp [Holds, node, htoken, Token.node, Node.toValue?, hvalue]⟩

/-- A member that may be left out. -/
def optionalMember (key : String) (member : Option Value) : List (String × Value) :=
  (member.map fun v => (key, v)).toList

/-- An optional member comes before the members that are listed after it. -/
theorem filterMap_optional {β : Type} (key : String) (o : Option β) (f : β → Value)
    (rest : List (Option (String × Value))) :
    ((o.map fun b => (key, f b)) :: rest).filterMap id =
      optionalMember key (o.map f) ++ rest.filterMap id := by
  cases o <;> rfl

/-- A member that may be left out holds one that is left out with it. -/
theorem MembersHold.optional (key : String) {member member' : Option Value}
    (h : member.Rel (Holds depth) member') {members members' : List (String × Value)}
    (hrest : MembersHold depth members members') :
    MembersHold depth (optionalMember key member ++ members)
      (optionalMember key member' ++ members') := by
  cases h with
  | none => exact hrest
  | some hv => exact .cons ⟨rfl, hv⟩ hrest

/-- An optional member whose text holds it as it is written does so when it is left out, too. -/
theorem rel_holds_map {β : Type} {write : β → Value} (h : ∀ b, Holds depth (write b) (write b))
    (o : Option β) : (o.map write).Rel (Holds depth) (o.map write) := by
  cases o with
  | none => exact .none
  | some b => exact .some (h b)

/-- The text of an optional integer of 64 bits holds it as it is written, and when it is left
out. -/
theorem rel_holds_int64 (o : Option Int64) :
    (o.map fun i => integer i.toInt).Rel (Holds depth) (o.map fun i => integer i.toInt) :=
  rel_holds_map (fun i => holds_integer (fitsWord_int64 i)) o

/-- **The text of an object holds what the texts of its members hold**, in order of keys. -/
theorem holds_object {members members' : List (String × Value)}
    (h : MembersHold depth members members') :
    Holds (depth + 1) (.object members) (.object (arrange members')) := by
  rw [Holds, node]
  exact Node.toValue?_object_eq_ok_iff.mpr ⟨rfl, members', h.nodes, rfl⟩

/-- An object whose members are in order, and whose texts hold them, is held by its own text. -/
theorem holds_object_self {members : List (String × Value)}
    (hkeys : members.Pairwise fun m m' => m.1 < m'.1) (h : ∀ m ∈ members, Holds depth m.2 m.2) :
    Holds (depth + 1) (.object members) (.object members) := by
  have hmembers : MembersHold depth members members :=
    List.forall₂_same.mpr fun m hm => ⟨rfl, h m hm⟩
  have hobject := holds_object hmembers
  rwa [arrange_of_pairwise hkeys] at hobject

/-- A value is read from a text that goes on with nothing but blanks. -/
theorem ofBytes?_eq_ok_iff {bs : Bytes} {v : Value} : ofBytes? bs = .ok v ↔
    (Document.ofBytes bs).root.toValue? depthLimit = .ok v ∧
      (Document.ofBytes bs).trailing = false := by
  rw [ofBytes?]
  cases (Document.ofBytes bs).root.toValue? depthLimit <;>
    cases (Document.ofBytes bs).trailing <;> simp [bind, Except.bind, pure, Except.pure]

/-- **What is read from the text of a value is what the text holds.** -/
theorem Holds.ofBytes?_render {v w : Value} (h : Holds depthLimit v w) :
    ofBytes? (Text.bytes v.render) = .ok w := by
  rw [ofBytes?_eq_ok_iff, Document.ofBytes_render v]
  exact ⟨h, rfl⟩

/-! ### Lengths -/

/-- Members take up no more than each of them with a colon and a comma. -/
theorem length_memberChars_le (bound : Nat) {members : List (String × Value)}
    (h : ∀ m ∈ members, (utf8 (quoteString m.1)).length + (utf8 m.2.chars).length ≤ bound) :
    (utf8 (memberChars members)).length ≤ members.length * (bound + 2) := by
  match members with
  | [] => simp [memberChars]
  | [(k, v)] =>
      have hm := h (k, v) List.mem_cons_self
      simp only [memberChars, Text.utf8_append, Text.utf8_cons, List.length_append,
        Text.utf8EncodeChar_of_lt (show ':'.toNat < 128 by decide), List.length_singleton]
      dsimp only at hm
      omega
  | (k, v) :: m :: members =>
      have hm := h (k, v) List.mem_cons_self
      have hrest := length_memberChars_le bound fun m' hm' => h m' (List.mem_cons_of_mem (k, v) hm')
      simp only [memberChars, Text.utf8_append, Text.utf8_cons, List.length_append,
        Text.utf8EncodeChar_of_lt (show ':'.toNat < 128 by decide),
        Text.utf8EncodeChar_of_lt (show ','.toNat < 128 by decide), List.length_singleton]
      dsimp only at hm
      rw [List.length_cons, Nat.succ_mul]
      omega

/-- **The text of an object is no longer than its members make it.** -/
theorem length_render_object_le (bound : Nat) {members : List (String × Value)}
    (h : ∀ m ∈ members, (utf8 (quoteString m.1)).length + (utf8 m.2.chars).length ≤ bound) :
    (Text.bytes (object members).render).length ≤ members.length * (bound + 2) + 2 := by
  have hmembers := length_memberChars_le bound h
  rw [render, Text.bytes_ofList, chars]
  simp only [Text.utf8_append, Text.utf8_cons, List.length_append, Text.utf8_nil, List.length_nil,
    Text.utf8EncodeChar_of_lt (show '\x7b'.toNat < 128 by decide),
    Text.utf8EncodeChar_of_lt (show '\x7d'.toNat < 128 by decide), List.length_singleton]
  omega

/-- An integer within 64 bits takes up at most 20 bytes. -/
theorem length_integer_le {i : Int} (h : FitsWord i) : (utf8 (integer i).chars).length ≤ 20 := by
  obtain ⟨hlow, hhigh⟩ := h
  have hlength : (Nat.toDigits 10 i.natAbs).length ≤ if i < 0 then 19 else 20 := by
    split
    · exact (Nat.length_toDigits_le_iff (by decide) (by decide)).mpr (by omega)
    · exact (Nat.length_toDigits_le_iff (by decide) (by decide)).mpr (by omega)
  have hdigits : (utf8 (Nat.toDigits 10 i.natAbs)).length = (Nat.toDigits 10 i.natAbs).length := by
    rw [utf8_digits fun _ => isDigit_of_mem_toDigits, List.length_map]
  rw [integer, chars, Number.chars, integerChars]
  split at hlength
  · next hneg =>
    rw [if_pos hneg, Text.utf8_cons, Text.utf8EncodeChar_of_lt (by decide), List.length_append,
      List.length_singleton, hdigits]
    omega
  · next hneg =>
    rw [if_neg hneg, hdigits]
    exact hlength

/-- The text of a truth value takes up at most 20 bytes. -/
theorem length_boolean_le (b : Bool) : (utf8 (boolean b).chars).length ≤ 20 := by
  cases b <;> decide

end Value

end FanControl.Json
