import FanControl.Proofs.Json.Record
import Mathlib.Data.List.Nodup
import Mathlib.Data.List.Pairwise

/-!
# Members in any order

A text names the members of an object in the order that its writer likes, while a value that has
been read keeps them in order of their keys. A record whose fields are **separate**, each under a
key and with a part of its own to fill in, takes no notice of this. As long as no key comes twice,
what it reads is settled by what is found under the keys of its fields.

So a body may be read straight from its text or from the value that the text holds: a record of
separate and faithful fields **accepts both or neither**, and reads the same from both.

## Main results

* `Value.perm_arrange`: members in order of keys are the same members;
* `Record.Separate.memberValues_perm`: members in another order;
* `Record.Separate.memberValues_eq_ok_iff`: what is read, key by key;
* `Record.Separate.ofBytes_eq_ok_iff`: a text and the value that it holds.
-/

namespace FanControl.Json

/-! ### Distinct keys -/

/-- No two members have the same key. -/
def DistinctKeys (members : List (String × Value)) : Prop := (members.map (·.1)).Nodup

/-- An object names each of its keys once; other values name none. -/
def Value.DistinctKeys : Value → Prop
  | object members => Json.DistinctKeys members
  | _ => True

/-- The keys that the text of an object names, one after another. -/
def Document.keys? (document : Document) : Option (List (Except Fault String)) :=
  match document.root with
  | .object members _ => some (members.map fun m => m.1.decode)
  | _ => none

/-- A text is an object that names each of its keys once. -/
def Document.DistinctKeys (document : Document) : Prop := ∃ keys ∈ document.keys?, keys.Nodup

instance (document : Document) : Decidable document.DistinctKeys :=
  inferInstanceAs (Decidable (∃ keys ∈ document.keys?, keys.Nodup))

/-- Only objects name keys. -/
theorem Document.root_of_mem_keys? {document : Document} {keys : List (Except Fault String)}
    (h : keys ∈ document.keys?) : ∃ nodes ending, document.root = .object nodes ending ∧
      keys = nodes.map fun m => m.1.decode := by
  rw [keys?] at h
  split at h
  · next nodes ending hroot => exact ⟨nodes, ending, hroot, (Option.some.inj h).symm⟩
  · cases h

/-- Among entries with distinct keys, the one with a key is found. -/
theorem find?_key_eq_some_iff {β : Type} {keyOf : β → String} {entries : List β}
    (h : (entries.map keyOf).Nodup) {key : String} {e : β} :
    entries.find? (keyOf · == key) = some e ↔ e ∈ entries ∧ keyOf e = key := by
  refine ⟨fun hfind => ⟨List.mem_of_find?_eq_some hfind, ?_⟩, ?_⟩
  · simpa using List.find?_some hfind
  · rintro ⟨hmem, rfl⟩
    cases hfind : entries.find? (keyOf · == keyOf e) with
    | none => exact absurd BEq.rfl (List.find?_eq_none.mp hfind e hmem)
    | some e' =>
        have hkey : keyOf e' = keyOf e := by simpa using List.find?_some hfind
        exact congrArg some
          (List.inj_on_of_nodup_map h (List.mem_of_find?_eq_some hfind) hmem hkey)

namespace Value

variable {members members' : List (String × Value)} {key : String} {v : Value}

theorem lookup?_eq_none_iff : lookup? key members = none ↔ key ∉ members.map (·.1) := by
  simp only [lookup?, Option.map_eq_none_iff, List.find?_eq_none, List.mem_map, not_exists,
    not_and, beq_iff_eq]

/-- **Under distinct keys, what is found under a key is the member with that key.** -/
theorem lookup?_eq_some_iff (h : Json.DistinctKeys members) :
    lookup? key members = some v ↔ (key, v) ∈ members := by
  simp only [lookup?, Option.map_eq_some_iff, find?_key_eq_some_iff h]
  refine ⟨?_, fun hmem => ⟨(key, v), ⟨hmem, rfl⟩, rfl⟩⟩
  rintro ⟨m, ⟨hmem, rfl⟩, rfl⟩
  exact hmem

/-- The order of members makes no difference to what is found. -/
theorem lookup?_perm (h : Json.DistinctKeys members) (hperm : members.Perm members')
    (key : String) : lookup? key members = lookup? key members' := by
  have h' : Json.DistinctKeys members' := (hperm.map _).nodup h
  refine Option.ext fun v => ?_
  rw [lookup?_eq_some_iff h, lookup?_eq_some_iff h', hperm.mem_iff]

/-- **A member that is found is taken out of the others**, under whose keys the same is found as
before. -/
theorem exists_perm_cons (h : Json.DistinctKeys members) (hfind : lookup? key members = some v) :
    ∃ rest, members.Perm ((key, v) :: rest) ∧ Json.DistinctKeys rest ∧ lookup? key rest = none ∧
      ∀ other, other ≠ key → lookup? other rest = lookup? other members := by
  obtain ⟨before, after, hsplit⟩ := List.append_of_mem ((lookup?_eq_some_iff h).mp hfind)
  have hperm : members.Perm ((key, v) :: (before ++ after)) := hsplit ▸ List.perm_middle
  obtain ⟨hnew, hrest⟩ := List.nodup_cons.mp ((hperm.map _).nodup h)
  refine ⟨before ++ after, hperm, hrest, lookup?_eq_none_iff.mpr hnew, fun other hne => ?_⟩
  rw [lookup?_perm h hperm, lookup?, lookup?, List.find?_cons_of_neg (by simpa using hne.symm)]

/-- A member whose key is new is put among the others, which stay. -/
theorem perm_insert (h : key ∉ members.map (·.1)) :
    (insert key v members).Perm ((key, v) :: members) := by
  induction members with
  | nil => exact .refl _
  | cons m members ih =>
      obtain ⟨k, w⟩ := m
      obtain ⟨hne, hrest⟩ : key ≠ k ∧ key ∉ members.map (·.1) := by simpa using h
      rw [insert, if_neg hne]
      split
      · exact .refl _
      · exact ((ih hrest).cons _).trans (.swap ..)

/-- Members with new keys that are put in one after another are there with the others. -/
theorem perm_foldl_insert (before : List (String × Value))
    (h : Json.DistinctKeys (before ++ members)) :
    (members.foldl (fun before m => insert m.1 m.2 before) before).Perm (before ++ members) := by
  induction members generalizing before with
  | nil => simp
  | cons m members ih =>
      have hswap : (before ++ m :: members).Perm (m :: (before ++ members)) := List.perm_middle
      have hkeys : Json.DistinctKeys (m :: (before ++ members)) := (hswap.map _).nodup h
      have hnew : m.1 ∉ before.map (·.1) := by
        have hhead := (List.nodup_cons.mp hkeys).1
        simp only [List.map_append, List.mem_append, not_or] at hhead
        exact hhead.1
      have hinsert : (insert m.1 m.2 before ++ members).Perm (m :: (before ++ members)) :=
        (perm_insert hnew).append_right members
      rw [List.foldl_cons]
      exact ((ih _ ((hinsert.symm.map _).nodup hkeys)).trans hinsert).trans hswap.symm

/-- **Members in order of their keys are the same members**, if the keys are distinct. -/
theorem perm_arrange (h : Json.DistinctKeys members) : (arrange members).Perm members :=
  perm_foldl_insert [] h

/-- Among members in order of their keys each key comes once, whether the keys were distinct or
not. -/
theorem distinctKeys_arrange (members : List (String × Value)) :
    Json.DistinctKeys (arrange members) := by
  have hfold (before : List (String × Value)) (h : before.Pairwise fun m m' => m.1 < m'.1) :
      (members.foldl (fun before m => insert m.1 m.2 before) before).Pairwise
        fun m m' => m.1 < m'.1 := by
    induction members generalizing before with
    | nil => exact h
    | cons m members ih => exact ih _ (pairwise_insert m.1 m.2 h)
  exact List.pairwise_map.mpr ((hfold [] .nil).imp String.ne_of_lt)

/-- **Each key comes once in a value that has been read.** -/
theorem distinctKeys_of_ofBytes? {bs : Bytes} (h : ofBytes? bs = .ok v) : v.DistinctKeys := by
  have hroot := (ofBytes?_eq_ok_iff.mp h).1
  cases v with
  | object members =>
      obtain ⟨nodes, ending, hnode⟩ := Node.object_of_toValue? hroot
      rw [hnode, depthLimit] at hroot
      obtain ⟨-, members', -, harrange⟩ := Node.toValue?_object_eq_ok_iff.mp hroot
      obtain rfl := Value.object.inj harrange
      exact distinctKeys_arrange members'
  | _ => trivial

end Value

/-! ### Separate fields -/

/-- What two fields change does not depend on which of them comes first. -/
def Field.Commutes {α : Type} (f g : Field α) : Prop :=
  ∀ v w fill fill', f.fill.value v = .ok fill → g.fill.value w = .ok fill' →
    ∀ a, fill (fill' a) = fill' (fill a)

/-- Fields that set what the other one leaves alone commute. -/
theorem Field.commutes_of_set {α β γ : Type} {f g : Field α} {reader : Reader β}
    {reader' : Reader γ} {set : β → α → α} {set' : γ → α → α} (hf : f.fill = reader.map set)
    (hg : g.fill = reader'.map set') (h : ∀ b c a, set b (set' c a) = set' c (set b a)) :
    f.Commutes g := by
  intro v w fill fill' hfill hfill' a
  rw [hf] at hfill
  rw [hg] at hfill'
  obtain ⟨b, -, rfl⟩ := Reader.map_value_eq_ok_iff.mp hfill
  obtain ⟨c, -, rfl⟩ := Reader.map_value_eq_ok_iff.mp hfill'
  exact h b c a

namespace Record

variable {α : Type} {r : Record α}

/-- Each field has a key of its own and fills in a part of its own. -/
structure Separate (r : Record α) : Prop where
  pairwise : r.fields.Pairwise fun f g => f.key ≠ g.key ∧ f.Commutes g

/-- A field that is found has the key. -/
theorem of_field?_eq_some {key : String} {f : Field α} (h : r.field? key = some f) :
    f ∈ r.fields ∧ f.key = key :=
  ⟨List.mem_of_find?_eq_some h, by simpa using List.find?_some h⟩

namespace Separate

/-- Fields under different keys commute. -/
theorem commutes (h : r.Separate) {f g : Field α} (hf : f ∈ r.fields) (hg : g ∈ r.fields)
    (hne : f.key ≠ g.key) : f.Commutes g := by
  have hsymm : Std.Symm fun f g : Field α => f.key ≠ g.key ∧ f.Commutes g :=
    ⟨fun f g hfg => ⟨hfg.1.symm, fun v w fill fill' hv hw a =>
      (hfg.2 w v fill' fill hw hv a).symm⟩⟩
  exact (h.pairwise.forall hf hg fun heq => hne (congrArg _ heq)).2

/-- A field is the one with its key. -/
theorem field?_eq (h : r.Separate) {f : Field α} (hf : f ∈ r.fields) : r.field? f.key = some f :=
  (find?_key_eq_some_iff (List.pairwise_map.mpr (h.pairwise.imp And.left))).mpr ⟨hf, rfl⟩

end Separate

/-! ### What a record accepts -/

/-- A member is passed by if it has no field, and else it is the first one of its key and fills in
its part. -/
theorem memberValues_cons_eq_ok_iff {present : List String} {a b : α} {m : String × Value}
    {members : List (String × Value)} :
    r.memberValues present a (m :: members) = .ok b ↔
      match r.field? m.1 with
      | none => r.memberValues present a members = .ok b
      | some f => m.1 ∉ present ∧ ∃ fill, f.fill.value m.2 = .ok fill ∧
          r.memberValues (m.1 :: present) (fill a) members = .ok b := by
  obtain ⟨key, v⟩ := m
  rw [memberValues]
  cases r.field? key with
  | none => exact Iff.rfl
  | some f =>
      by_cases hkey : key ∈ present
      · simp [hkey]
      · cases hfill : f.fill.value v <;> simp [hkey, hfill, bind, Except.bind]

/-- A record is finished if no required field is absent. -/
theorem finish_eq_ok_iff {present : List String} {a b : α} :
    r.finish present a = .ok b ↔
      (∀ f ∈ r.fields, f.needed = true → f.key ∈ present) ∧ a = b := by
  rw [finish]
  cases hfind : r.fields.find? fun f => f.needed && !present.contains f.key with
  | none => simpa using fun _ => List.find?_eq_none.mp hfind
  | some f =>
      obtain ⟨hneeded, habsent⟩ : f.needed = true ∧ f.key ∉ present := by
        simpa using List.find?_some hfind
      simp only [reduceCtorEq, false_iff, not_and]
      exact fun hpresent => absurd (hpresent f (List.mem_of_find?_eq_some hfind) hneeded) habsent

/-- Which keys have been present matters, but not in which order. -/
theorem memberValues_congr {present present' : List String}
    (h : ∀ key, key ∈ present ↔ key ∈ present') {a b : α} {members : List (String × Value)} :
    r.memberValues present a members = .ok b ↔ r.memberValues present' a members = .ok b := by
  induction members generalizing present present' a with
  | nil => simp only [memberValues, finish_eq_ok_iff, h]
  | cons m members ih =>
      rw [memberValues_cons_eq_ok_iff, memberValues_cons_eq_ok_iff]
      cases r.field? m.1 with
      | none => exact ih h
      | some f =>
          have hnext : ∀ key, key ∈ m.1 :: present ↔ key ∈ m.1 :: present' := by simp [h]
          simp only [h, ih hnext]

/-- Two members that are next to each other may change places. -/
theorem Separate.memberValues_swap (hr : r.Separate) {m m' : String × Value} (hne : m.1 ≠ m'.1)
    {members : List (String × Value)} {present : List String} {a b : α}
    (h : r.memberValues present a (m :: m' :: members) = .ok b) :
    r.memberValues present a (m' :: m :: members) = .ok b := by
  simp only [memberValues_cons_eq_ok_iff] at h ⊢
  cases hf : r.field? m.1 with
  | none => simpa only [hf] using h
  | some f =>
      cases hg : r.field? m'.1 with
      | none => simpa only [hf, hg] using h
      | some g =>
          rw [hf, hg] at h
          obtain ⟨hm, fill, hfill, hm', fill', hfill', h⟩ := h
          have hm' : m'.1 ∉ present := fun hmem => hm' (List.mem_cons_of_mem _ hmem)
          have hcommutes : fill' (fill a) = fill (fill' a) := by
            obtain ⟨hfmem, hfkey⟩ := of_field?_eq_some hf
            obtain ⟨hgmem, hgkey⟩ := of_field?_eq_some hg
            have hkeys : g.key ≠ f.key := by rw [hfkey, hgkey]; exact hne.symm
            exact hr.commutes hgmem hfmem hkeys m'.2 m.2 fill' fill hfill' hfill a
          have hpresent (key : String) :
              key ∈ m'.1 :: m.1 :: present ↔ key ∈ m.1 :: m'.1 :: present := by
            simp only [List.mem_cons, or_left_comm]
          rw [hcommutes, memberValues_congr hpresent] at h
          exact ⟨hm', fill', hfill', by simp [hne, hm], fill, hfill, h⟩

/-- **The order of members makes no difference** to a record of separate fields. -/
theorem Separate.memberValues_perm (hr : r.Separate) {members members' : List (String × Value)}
    (hperm : members.Perm members') (hkeys : DistinctKeys members) {present : List String}
    {a b : α} :
    r.memberValues present a members = .ok b ↔ r.memberValues present a members' = .ok b := by
  induction hperm generalizing present a with
  | nil => exact Iff.rfl
  | cons m _ ih =>
      have hrest := (List.nodup_cons.mp hkeys).2
      rw [memberValues_cons_eq_ok_iff, memberValues_cons_eq_ok_iff]
      cases r.field? m.1 with
      | none => exact ih hrest
      | some f => simp only [ih hrest]
  | swap m m' members =>
      have hne : m'.1 ≠ m.1 := by
        have hhead := (List.nodup_cons.mp hkeys).1
        simp only [List.map_cons, List.mem_cons, not_or] at hhead
        exact hhead.1
      exact ⟨hr.memberValues_swap hne, hr.memberValues_swap hne.symm⟩
  | trans hperm _ ih ih' => exact (ih hkeys).trans (ih' ((hperm.map _).nodup hkeys))

/-! ### Key by key -/

/-- What fields read, one after another, each from what is found under its key. -/
def fieldValues (find : String → Option Value) (a : α) : List (Field α) → Option α
  | [] => some a
  | f :: fields =>
    match find f.key with
    | none => if f.needed then none else fieldValues find a fields
    | some v =>
      match f.fill.value v with
      | .ok fill => fieldValues find (fill a) fields
      | .error _ => none

theorem fieldValues_nil (find : String → Option Value) (a : α) : fieldValues find a [] = some a :=
  rfl

/-- Only what is found under the keys of the fields matters. -/
theorem fieldValues_congr {find find' : String → Option Value} {fields : List (Field α)}
    (h : ∀ f ∈ fields, find f.key = find' f.key) (a : α) :
    fieldValues find a fields = fieldValues find' a fields := by
  induction fields generalizing a with
  | nil => rfl
  | cons f fields ih =>
      have hrest := ih fun g hg => h g (List.mem_cons_of_mem _ hg)
      simp only [fieldValues, h f List.mem_cons_self, hrest]

/-- A required field is there and can be read. -/
theorem fieldValues_required {β : Type} {find : String → Option Value} {key : String}
    {reader : Reader β} {set : β → α → α} {fields : List (Field α)} {a b : α} :
    fieldValues find a (.required key reader set :: fields) = some b ↔
      ∃ c, (∃ v, find key = some v ∧ reader.value v = .ok c) ∧
        fieldValues find (set c a) fields = some b := by
  rw [fieldValues, show (Field.required key reader set).key = key from rfl]
  cases find key with
  | none => simp [Field.required]
  | some v =>
      cases hvalue : reader.value v with
      | error e =>
          have hfill : (Field.required key reader set).fill.value v = .error e :=
            congrArg (set <$> ·) hvalue
          simp [hfill, hvalue]
      | ok c =>
          have hfill : (Field.required key reader set).fill.value v = .ok (set c) :=
            Reader.map_value set hvalue
          simp [hfill, hvalue]

/-- A record that is read has its required fields. -/
theorem mem_keys_of_memberValues {present : List String} {a b : α}
    {members : List (String × Value)} (h : r.memberValues present a members = .ok b)
    {f : Field α} (hf : f ∈ r.fields) (hneeded : f.needed = true) :
    f.key ∈ present ∨ f.key ∈ members.map (·.1) := by
  induction members generalizing present a with
  | nil => exact .inl ((finish_eq_ok_iff.mp h).1 f hf hneeded)
  | cons m members ih =>
      rw [memberValues_cons_eq_ok_iff] at h
      rw [List.map_cons, List.mem_cons]
      cases hfield : r.field? m.1 with
      | none =>
          rw [hfield] at h
          exact (ih h).imp_right .inr
      | some g =>
          rw [hfield] at h
          obtain ⟨-, fill, -, h⟩ := h
          rcases ih h with hkey | hkey
          · exact (List.mem_cons.mp hkey).symm.imp_right .inl
          · exact .inr (.inr hkey)

/-- Members without a field are passed by. -/
theorem memberValues_of_other {present : List String} {a : α} {members : List (String × Value)}
    (h : ∀ m ∈ members, r.field? m.1 = none) :
    r.memberValues present a members = r.finish present a := by
  induction members with
  | nil => rfl
  | cons m members ih =>
      rw [memberValues_other (h m List.mem_cons_self)]
      exact ih fun m hm => h m (List.mem_cons_of_mem _ hm)

/-- What holds while fields are read one after another, each of them taken out of the members: the
other fields are settled. -/
structure Remaining (r : Record α) (fields : List (Field α)) (present : List String)
    (members : List (String × Value)) : Prop where
  sublist : fields.Sublist r.fields
  absent : ∀ f ∈ fields, f.key ∉ present
  /-- No member of another field is left, and if the field is required there has been one. -/
  settled : ∀ f ∈ r.fields, f ∈ fields ∨
    (Value.lookup? f.key members = none ∧ (f.needed = true → f.key ∈ present))

namespace Remaining

variable {f : Field α} {fields : List (Field α)} {present : List String}
  {members rest : List (String × Value)}

/-- Before any field has been read none is settled. -/
theorem all (r : Record α) (members : List (String × Value)) : r.Remaining r.fields [] members where
  sublist := .refl _
  absent _ _ := List.not_mem_nil
  settled _ := .inl

/-- A field that is absent is settled if it may be. -/
theorem skip (h : r.Remaining (f :: fields) present members)
    (hnone : Value.lookup? f.key members = none) (hneeded : ¬f.needed = true) :
    r.Remaining fields present members where
  sublist := (List.sublist_cons_self f fields).trans h.sublist
  absent g hg := h.absent g (List.mem_cons_of_mem _ hg)
  settled g hg := by
    rcases h.settled g hg with hcons | hdone
    · rcases List.mem_cons.mp hcons with rfl | hg
      · exact .inr ⟨hnone, fun h => absurd h hneeded⟩
      · exact .inl hg
    · exact .inr hdone

/-- A field whose key differs from those of all fields that come after it is settled once its member
has been taken out. -/
theorem take (h : r.Remaining (f :: fields) present members)
    (hdistinct : ∀ g ∈ fields, g.key ≠ f.key) (hgone : Value.lookup? f.key rest = none)
    (hothers : ∀ key, key ≠ f.key → Value.lookup? key rest = Value.lookup? key members) :
    r.Remaining fields (f.key :: present) rest where
  sublist := (List.sublist_cons_self f fields).trans h.sublist
  absent g hg := by simpa [hdistinct g hg] using h.absent g (List.mem_cons_of_mem _ hg)
  settled g hg := by
    rcases h.settled g hg with hcons | ⟨hnone, hpresent⟩
    · rcases List.mem_cons.mp hcons with rfl | hg
      · exact .inr ⟨hgone, fun _ => List.mem_cons_self⟩
      · exact .inl hg
    · have hlookup : Value.lookup? g.key rest = none := by
        by_cases hkey : g.key = f.key
        · rw [hkey, hgone]
        · rw [hothers _ hkey, hnone]
      exact .inr ⟨hlookup, fun h => List.mem_cons_of_mem _ (hpresent h)⟩

/-- When all fields are settled, no member has a field, and the record is finished. -/
theorem memberValues_of_nil (h : r.Remaining [] present members) {a b : α} :
    r.memberValues present a members = .ok b ↔ a = b := by
  have hdone (f) (hf : f ∈ r.fields) := (h.settled f hf).resolve_left List.not_mem_nil
  have hother (m) (hm : m ∈ members) : r.field? m.1 = none := by
    refine List.find?_eq_none.mpr fun f hf hkey => ?_
    have hnone := (hdone f hf).1
    rw [beq_iff_eq.mp hkey] at hnone
    exact Value.lookup?_eq_none_iff.mp hnone (List.mem_map_of_mem hm)
  rw [memberValues_of_other hother, finish_eq_ok_iff]
  exact and_iff_right fun f hf => (hdone f hf).2

end Remaining

/-- The fields that remain read what is found under their keys. -/
theorem Separate.memberValues_eq_ok_iff_of_remaining (hr : r.Separate) {fields : List (Field α)}
    {members : List (String × Value)} (hkeys : DistinctKeys members) {present : List String}
    (hfields : r.Remaining fields present members) {a b : α} :
    r.memberValues present a members = .ok b ↔
      fieldValues (Value.lookup? · members) a fields = some b := by
  induction fields generalizing members present a with
  | nil => rw [hfields.memberValues_of_nil, fieldValues_nil, Option.some.injEq]
  | cons f fields ih =>
      have hmem : f ∈ r.fields := hfields.sublist.subset List.mem_cons_self
      have habsent : f.key ∉ present := hfields.absent f List.mem_cons_self
      rw [fieldValues]
      cases hfind : Value.lookup? f.key members with
      | none =>
          dsimp only
          split
          · next hneeded =>
            simp only [reduceCtorEq, iff_false]
            intro h
            rcases mem_keys_of_memberValues h hmem hneeded with hkey | hkey
            · exact habsent hkey
            · exact Value.lookup?_eq_none_iff.mp hfind hkey
          · next hneeded => exact ih hkeys (hfields.skip hfind hneeded)
      | some v =>
          obtain ⟨rest, hperm, hrest, hgone, hothers⟩ := Value.exists_perm_cons hkeys hfind
          have hdistinct (g) (hg : g ∈ fields) : g.key ≠ f.key :=
            ((List.pairwise_cons.mp (hr.pairwise.sublist hfields.sublist)).1 g hg).1.symm
          have hstep (a : α) : r.memberValues (f.key :: present) a rest = .ok b ↔
              fieldValues (Value.lookup? · members) a fields = some b := by
            have hsame : fieldValues (Value.lookup? · rest) a fields =
                fieldValues (Value.lookup? · members) a fields :=
              fieldValues_congr (fun g hg => hothers _ (hdistinct g hg)) a
            rw [ih hrest (hfields.take hdistinct hgone hothers), hsame]
          rw [hr.memberValues_perm hperm hkeys, memberValues_cons_eq_ok_iff, hr.field?_eq hmem]
          dsimp only
          cases f.fill.value v with
          | error e => simp
          | ok fill => simpa [habsent] using hstep (fill a)

/-- **What a record of separate fields reads is settled by what is found under their keys**, if no
key comes twice. -/
theorem Separate.memberValues_eq_ok_iff (hr : r.Separate) {members : List (String × Value)}
    (hkeys : DistinctKeys members) {b : α} :
    r.memberValues [] r.blank members = .ok b ↔
      fieldValues (Value.lookup? · members) r.blank r.fields = some b :=
  hr.memberValues_eq_ok_iff_of_remaining hkeys (.all r members)

/-! ### A text and the value that it holds -/

/-- Members of a document and those that they hold have the same keys. -/
theorem decode_of_membersHold {depth : Nat} {nodes : List (StringText × Node)}
    {members : List (String × Value)} (h : Node.MembersHold depth nodes members) :
    nodes.map (fun m => m.1.decode) = members.map fun m => .ok m.1 := by
  induction h with
  | nil => rfl
  | cons hm _ ih => rw [List.map_cons, List.map_cons, hm.1, ih]

/-- **A record of separate and faithful fields reads from the text of an object what it reads from
the value that the text holds**, if no key comes twice. -/
theorem Separate.ofBytes_eq_ok_iff (hr : r.Separate) (hfields : ∀ f ∈ r.fields, f.fill.Faithful)
    {bs : Bytes} {v : Value} (hv : Value.ofBytes? bs = .ok v)
    (hkeys : (Document.ofBytes bs).DistinctKeys) {a : α} :
    r.reader.ofBytes bs = .ok a ↔ r.reader.value v = .ok a := by
  obtain ⟨keys, hnames, hdistinct⟩ := hkeys
  obtain ⟨nodes, ending, hroot, rfl⟩ := Document.root_of_mem_keys? hnames
  obtain ⟨hvalue, htrailing⟩ := Value.ofBytes?_eq_ok_iff.mp hv
  rw [hroot, depthLimit] at hvalue
  obtain ⟨rfl, members, hmembers, rfl⟩ := Node.toValue?_object_eq_ok_iff.mp hvalue
  have hkeys : DistinctKeys members := by
    rw [decode_of_membersHold hmembers] at hdistinct
    exact List.pairwise_map.mpr ((List.pairwise_map.mp hdistinct).imp fun hne heq =>
      hne (congrArg _ heq))
  have hread : r.reader.ofBytes bs = r.memberValues [] r.blank members := by
    have hnode : r.reader.node depthLimit (Document.ofBytes bs).root =
        r.memberValues [] r.blank members :=
      hroot ▸ memberNodes_eq hfields hmembers [] r.blank
    rw [Reader.ofBytes]
    simp only [hnode, htrailing]
    cases r.memberValues [] r.blank members <;> rfl
  rw [hread]
  exact hr.memberValues_perm (Value.perm_arrange hkeys).symm hkeys

end Record

end FanControl.Json
