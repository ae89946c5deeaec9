import FanControl.Configuration.Part
import FanControl.Proofs.Schedule.Dialect
import FanControl.Startup
import Mathlib.Data.Finset.Lattice.Lemmas

/-!
# Configuration files

A file is read member by member. A member that names a part takes it from the configuration the file
was written for, and every other member is passed by, whatever value it has. So **a file amounts to
the parts that it names, with the defaults of the others**, in whichever order it names them.

## Main results

* `Configuration.exists_field`: what a part fills in;
* `Configuration.Lists.memberNodes`: the members of a file, one after another;
* `Configuration.exists_lists`: there is a file for every list of parts;
* `Configuration.ofBytes_lists`: what a file amounts to.
-/

namespace FanControl.Configuration

open Json

variable {c : Configuration}

/-! ### Parts -/

/-- With all parts of a configuration, nothing is left of the defaults. -/
theorem only_univ (c : Configuration) : c.only Finset.univ = c := by
  simp [only]

/-- With no part, the defaults are all there is. -/
theorem only_empty (c : Configuration) : c.only ∅ = default := by
  simp [only, default]

/-- **Each part has a field**, which reads the part where it is printed and adds it to the
others. -/
theorem exists_field (c : Configuration) (p : Part) : ∃ f fill, record.field? p.key = some f ∧
    (∀ depth, f.fill.node depth (p.value c).node = .ok fill) ∧
    ∀ parts, fill (c.only parts) = c.only (insert p parts) := by
  have hword (i : UInt64) (depth : Nat) :
      Reader.uint64.node depth (Value.integer i.toNat).node = .ok i :=
    (Reader.faithful_uint64.read (Value.holds_integer (Value.fitsWord_uint64 i))).trans
      (Reader.uint64_value i)
  have hcount (i : UInt32) (depth : Nat) :
      Reader.uint32.node depth (Value.integer i.toNat).node = .ok i :=
    (Reader.faithful_uint32.read (Value.holds_integer (Value.fitsWord_uint32 i))).trans
      (Reader.uint32_value i)
  have htext (s : String) (depth : Nat) :
      Reader.string.node depth (Value.string s).node = .ok s :=
    (Reader.faithful_string.read (Value.holds_string s)).trans (Reader.string_value s)
  cases p with
  | deviceUrl =>
      exact ⟨_, _, rfl, fun depth => Field.withDefault_node (htext _ depth) _ _, by simp [only]⟩
  | pollIntervalMs =>
      exact ⟨_, _, rfl, fun depth => Field.withDefault_node (hword _ depth) _ _, by simp [only]⟩
  | requestTimeoutMs =>
      exact ⟨_, _, rfl, fun depth => Field.withDefault_node (hword _ depth) _ _, by simp [only]⟩
  | uploadTimeoutMs =>
      exact ⟨_, _, rfl, fun depth => Field.withDefault_node (hword _ depth) _ _, by simp [only]⟩
  | dialect =>
      exact ⟨_, _, rfl, fun depth => Field.withDefault_node (c.dialect.reader_node depth) _ _,
        by simp [only]⟩
  | countdown =>
      exact ⟨_, _, rfl, fun depth => Field.withDefault_node (hcount _ depth) _ _, by simp [only]⟩
  | tickMs =>
      exact ⟨_, _, rfl, fun depth => Field.withDefault_node (hword _ depth) _ _, by simp [only]⟩

/-- A key that no part has is no field's. -/
theorem field?_of_other {name : String} (h : ∀ p : Part, p.key ≠ name) :
    record.field? name = none := by
  have hkeys : record.fields.map (·.key) = Part.all.map Part.key := rfl
  refine List.find?_eq_none.mpr fun f hf hkey => ?_
  have hmem : f.key ∈ Part.all.map Part.key := hkeys ▸ List.mem_map_of_mem hf
  obtain ⟨p, -, hp⟩ := List.mem_map.mp hmem
  exact h p (hp.trans (beq_iff_eq.mp hkey))

/-- No two parts have the same key. -/
theorem Part.key_injective {p q : Part} (h : p.key = q.key) : p = q := by
  revert p q
  decide

/-! ### Files -/

/-- **The members of a file fill in the parts that they name**, one after another. What has been
read before are the parts in `done`, under keys that do not come again. -/
theorem Lists.memberNodes {members : List MemberSpelling} {parts : List Part}
    (h : c.Lists members parts) (honce : parts.Nodup) (depth : Nat) {present : List String}
    (hpresent : ∀ p ∈ parts, p.key ∉ present) (done : Finset Part) :
    record.memberNodes depth present (c.only done) (Spelling.memberNodes members) .closed =
      .ok (c.only (done ∪ parts.toFinset)) := by
  induction h generalizing present done with
  | nil =>
      rw [List.toFinset_nil, Finset.union_empty]
      rfl
  | @part key value p hkey hvalue members parts hrest ih =>
      obtain ⟨hnew, honce⟩ := List.nodup_cons.mp honce
      obtain ⟨f, fill, hfield, hfill, hadd⟩ := exists_field c p
      have hnode : f.fill.node depth value.it.node = .ok fill :=
        Spelling.node_eq_of_render hvalue ▸ hfill depth
      have hpresent' : ∀ q ∈ parts, q.key ∉ p.key :: present := by
        intro q hq hmem
        rcases List.mem_cons.mp hmem with heq | hmem
        · exact hnew (Part.key_injective heq ▸ hq)
        · exact hpresent q (List.mem_cons_of_mem p hq) hmem
      rw [Spelling.memberNodes, Record.memberNodes_field _ _ hkey hfield
        (hpresent p List.mem_cons_self) hnode, hadd, ih honce hpresent', List.toFinset_cons,
        Finset.insert_union, Finset.union_insert]
  | @other key value name hkey hother members parts hrest ih =>
      rw [Spelling.memberNodes, Record.memberNodes_other _ _ hkey (field?_of_other hother)
        value.it.skip_node, ih honce hpresent]

/-- **For every list of parts there is a file that names them in this order**, as they are
printed. -/
theorem exists_lists (c : Configuration) (parts : List Part) : ∃ members, c.Lists members parts ∧
    members.length = parts.length ∧
    Spelling.memberChars members = Value.memberChars (parts.map (Part.member c)) := by
  have hmember (p : Part) : ∃ (key : StringSpelling) (value : Spelling),
      key.chars = quoteString p.key ∧ key.text.decode = .ok p.key ∧
        value.chars = (p.value c).chars := by
    obtain ⟨key, hkey, htext⟩ := StringSpelling.exists_quoteString p.key
    obtain ⟨value, hvalue, -⟩ := (p.value c).exists_spelling
    exact ⟨key, value, hkey, htext ▸ StringText.decode_ofString p.key, hvalue⟩
  induction parts with
  | nil => exact ⟨[], .nil, rfl, rfl⟩
  | cons p parts ih =>
      obtain ⟨key, value, hkey, hname, hvalue⟩ := hmember p
      obtain ⟨members, hlists, hlength, hchars⟩ := ih
      refine ⟨(⟨[], key, []⟩, ⟨[], value, []⟩) :: members,
        .part p hname (congrArg String.ofList hvalue) hlists, by simpa using hlength, ?_⟩
      -- a comma comes only before another member
      match parts, members, hlength with
      | [], [], _ =>
          simp [Spelling.memberChars, Value.memberChars, Part.member, keyChars, spaceChars, hkey,
            hvalue]
      | q :: parts, m :: members, _ =>
          rw [List.map_cons] at hchars
          simp [Spelling.memberChars, Value.memberChars, Part.member, keyChars, spaceChars, hkey,
            hvalue, hchars]

/-- What is read from a file. -/
theorem Lists.ofBytes {members : List MemberSpelling} {parts : List Part}
    (h : c.Lists members parts) (honce : parts.Nodup) (before inner after : List Space) :
    reader.ofBytes (Spaced.mk before (.object inner members) after).bytes =
      .ok (c.only parts.toFinset) := by
  have hread := h.memberNodes honce 126 (fun _ _ => List.not_mem_nil) ∅
  rw [only_empty, Finset.empty_union] at hread
  rw [Reader.ofBytes_spelling]
  exact hread

/-- **A file amounts to the parts that it names, with the defaults of the others.** The file may
name any parts of a configuration in any order, each once, with any members about something else
between them, and it may be spelled with any blanks. What is printed of a configuration names all
parts, so it is read as the configuration. -/
theorem ofBytes_lists (c : Configuration) :
    (∀ {members : List MemberSpelling} {parts : List Part}, c.Lists members parts → parts.Nodup →
      ∀ before inner after : List Space,
        let file := (Spaced.mk before (.object inner members) after).bytes
        reader.ofBytes file = .ok (c.only parts.toFinset) ∧
          ofFile (some (.bytes file)) = .ok (c.only parts.toFinset)) ∧
      c.only Finset.univ = c ∧ reader.ofBytes (Text.bytes c.toValue.render) = .ok c := by
  refine ⟨?_, c.only_univ, ?_⟩
  · intro members parts hlists honce before inner after
    have hread := hlists.ofBytes honce before inner after
    refine ⟨hread, ?_⟩
    rw [ofFile, hread]
    rfl
  · obtain ⟨members, hlists, -, hchars⟩ := exists_lists c Part.all
    have hread := hlists.ofBytes (by decide) [] [] []
    have hprinted : (Spaced.mk [] (.object [] members) []).bytes =
        Text.bytes c.toValue.render := by
      rw [toValue_eq, Value.render, Value.chars, ← hchars]
      simp [Spaced.bytes, spaceChars, Spelling.chars]
    calc reader.ofBytes (Text.bytes c.toValue.render)
        = .ok (c.only Part.all.toFinset) := hprinted ▸ hread
      _ = .ok c := congrArg Except.ok c.only_univ

/-- A file may hold a number out of range and half of a surrogate pair, if only nobody wants
them. -/
theorem ofBytes_lists_strayMember :
    let c := { default with deviceUrl := "http://\"fan\"", dialect := .program }
    reader.ofBytes (Text.bytes ("\x7b\"note\": [1e999, \"\\uD800\"]," ++
      "\"slot_protocol\":\"program\",\"device_url\":\"http://\\\"fan\\\"\"\x7d\n")) = .ok c := by
  intro c
  let number : NumberSpelling := {
    negative := false
    whole := ['1']
    fraction := []
    exponent := some (⟨false, none⟩, ['9', '9', '9'])
    whole_digits := List.all_eq_true.mp rfl
    whole_ne_nil := List.cons_ne_nil _ _
    whole_head := fun _ => rfl
    fraction_digits := List.all_eq_true.mp rfl
    exponent_digits := by
      rintro _ ⟨⟩
      exact ⟨List.cons_ne_nil _ _, List.all_eq_true.mp rfl⟩ }
  let half : StringSpelling :=
    ⟨[.unit ⟨⟨13, by decide⟩, true⟩ ⟨⟨8, by decide⟩, false⟩ ⟨0, false⟩ ⟨0, false⟩]⟩
  let stray : Spelling := .array [] [⟨[], .number number, []⟩, ⟨[.blank], .string half, []⟩]
  obtain ⟨note, hnote, htext⟩ := StringSpelling.exists_quoteString "note"
  obtain ⟨members, hlists, hlength, hchars⟩ := exists_lists c [.dialect, .deviceUrl]
  have hstray : c.Lists ((⟨[], note, []⟩, ⟨[.blank], stray, []⟩) :: members) _ :=
    .other _ (htext ▸ StringText.decode_ofString "note") (by decide) hlists
  have hread := ((ofBytes_lists c).1 hstray (by decide) [] [] [.line]).1
  obtain ⟨m, members, rfl⟩ := List.exists_cons_of_length_eq_add_one hlength
  have hbytes : (Spaced.mk [] (.object []
      ((⟨[], note, []⟩, ⟨[.blank], stray, []⟩) :: m :: members)) [.line]).bytes =
      Text.bytes ("\x7b\"note\": [1e999, \"\\uD800\"]," ++
        "\"slot_protocol\":\"program\",\"device_url\":\"http://\\\"fan\\\"\"\x7d\n") := by
    rw [Spaced.bytes, Spelling.chars, Spelling.memberChars, keyChars, hnote, hchars]
    dsimp only
    decide +kernel
  rw [← hbytes, hread]
  decide

end FanControl.Configuration
