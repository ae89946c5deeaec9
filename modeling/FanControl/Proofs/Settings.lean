import FanControl.Proofs.Json.Record
import FanControl.Settings

/-!
# Settings on the wire

The reports of the two settings are read back as they were printed, whatever they leave out, and so
are the settings that are sent. To a reader of its own choice a setting that is sent arrives as a
value under whose keys its numbers stand.

## Main results

* `ManualReport.ofBytes_render`, `AutoReport.ofBytes_render`: reports;
* `ManualRequest.ofBytes_render`, `AutoSetting.ofBytes_render`: settings that are sent;
* `ManualRequest.holds_toValue`, `AutoSetting.holds_toValue`: the values that arrive.
-/

namespace FanControl

open Json
open Text (utf8)

/-- **A report of the manual output is read back.** -/
theorem ManualReport.ofBytes_render : reader.ReadsBack toValue := by
  intro r
  have hmembers : Value.MembersHold 126 _ _ :=
    .optional "manual_pwm" (Value.rel_holds_int64 r.pwm) <|
      .optional "mode" (Value.rel_holds_int64 r.mode) .nil
  rw [toValue]
  simp only [Value.filterMap_optional, List.filterMap_nil]
  refine (Record.ofBytes_render ?_ hmembers).trans ?_
  · simp [Field.faithful_optional, Reader.faithful_int64]
  · rw [Record.memberValues_optional rfl (by simp) (Reader.optional_int64_value r.pwm)
        Option.map_eq_none_iff.mp rfl,
      Record.memberValues_optional rfl (by simp) (Reader.optional_int64_value r.mode)
        Option.map_eq_none_iff.mp rfl, Record.memberValues_nil]
    rfl

/-- **A report of the band is read back.** -/
theorem AutoReport.ofBytes_render : reader.ReadsBack toValue := by
  intro r
  have hmembers : Value.MembersHold 126 _ _ :=
    .optional "tmin" (Value.rel_holds_int64 r.tmin) <|
      .optional "tmax" (Value.rel_holds_int64 r.tmax) <|
        .optional "mode" (Value.rel_holds_int64 r.mode) .nil
  rw [toValue]
  simp only [Value.filterMap_optional, List.filterMap_nil]
  refine (Record.ofBytes_render ?_ hmembers).trans ?_
  · simp [Field.faithful_optional, Reader.faithful_int64]
  · rw [Record.memberValues_optional rfl (by simp) (Reader.optional_int64_value r.tmin)
        Option.map_eq_none_iff.mp rfl,
      Record.memberValues_optional rfl (by simp) (Reader.optional_int64_value r.tmax)
        Option.map_eq_none_iff.mp rfl,
      Record.memberValues_optional rfl (by simp) (Reader.optional_int64_value r.mode)
        Option.map_eq_none_iff.mp rfl, Record.memberValues_nil]
    rfl

/-- **A manual output that is sent is read back.** -/
theorem ManualRequest.ofBytes_render : reader.ReadsBack toValue := by
  intro r
  have hmembers : Value.MembersHold 126 [("pwm", .integer r.pwm.toInt)]
      [("pwm", .integer r.pwm.toInt)] :=
    .cons ⟨rfl, Value.holds_integer (Value.fitsWord_int64 r.pwm)⟩ .nil
  refine (Record.ofBytes_render ?_ hmembers).trans ?_
  · simp [Field.faithful_required, Reader.faithful_int64]
  · rw [Record.memberValues_field rfl (by simp) (Reader.map_value _ (Reader.int64_value r.pwm)),
      Record.memberValues_nil]
    rfl

/-- The text of a manual output that is sent holds what is sent. -/
theorem ManualRequest.holds_toValue (r : ManualRequest) :
    Value.Holds depthLimit r.toValue r.toValue :=
  Value.holds_object_self (List.pairwise_singleton _ _) fun m hm => by
    rw [List.mem_singleton.mp hm]
    exact Value.holds_integer (Value.fitsWord_int64 r.pwm)

/-- The text of a manual output that is sent takes up at most 400 bytes. -/
theorem ManualRequest.length_toValue_le (r : ManualRequest) :
    (Text.bytes r.toValue.render).length ≤ 400 := by
  have hlength := Value.length_integer_le (Value.fitsWord_int64 r.pwm)
  have hkey : (utf8 (quoteString "pwm")).length = 5 := by decide
  refine (Value.length_render_object_le 40 fun m hm => ?_).trans (by simp)
  rw [List.mem_singleton.mp hm]
  dsimp only
  omega

namespace AutoSetting

/-- The texts of the members of a band hold the members. -/
theorem membersHold (s : AutoSetting) :
    Value.MembersHold 126 [("tmin", .integer s.tmin.toInt), ("tmax", .integer s.tmax.toInt)]
      [("tmin", .integer s.tmin.toInt), ("tmax", .integer s.tmax.toInt)] :=
  have hint (i : Int32) : Value.Holds 126 (.integer i.toInt) (.integer i.toInt) :=
    Value.holds_integer (Value.fitsWord_int32 i)
  .cons ⟨rfl, hint s.tmin⟩ (.cons ⟨rfl, hint s.tmax⟩ .nil)

/-- **A band that is sent is read back.** -/
theorem ofBytes_render : reader.ReadsBack toValue := by
  intro s
  refine (Record.ofBytes_render ?_ s.membersHold).trans ?_
  · simp [Field.faithful_required, Reader.faithful_int32]
  · rw [Record.memberValues_field rfl (by simp) (Reader.map_value _ (Reader.int32_value s.tmin)),
      Record.memberValues_field rfl (by simp) (Reader.map_value _ (Reader.int32_value s.tmax)),
      Record.memberValues_nil]
    rfl

/-- The members that are read from the text of a band that is sent. -/
def heldMembers (s : AutoSetting) : List (String × Value) :=
  [("tmax", .integer s.tmax.toInt), ("tmin", .integer s.tmin.toInt)]

/-- **The text of a band that is sent holds both of its ends.** -/
theorem holds_toValue (s : AutoSetting) :
    Value.Holds depthLimit s.toValue (.object s.heldMembers) := by
  have hlt : "tmax" < "tmin" := by decide
  have hobject := Value.holds_object s.membersHold
  simp only [Value.arrange, List.foldl_cons, List.foldl_nil, Value.insert, if_pos hlt] at hobject
  exact hobject

/-- The text of a band that is sent takes up at most 400 bytes. -/
theorem length_toValue_le (s : AutoSetting) : (Text.bytes s.toValue.render).length ≤ 400 := by
  have hmin := Value.length_integer_le (Value.fitsWord_int32 s.tmin)
  have hmax := Value.length_integer_le (Value.fitsWord_int32 s.tmax)
  have hkeys : (utf8 (quoteString "tmin")).length = 6 ∧ (utf8 (quoteString "tmax")).length = 6 := by
    decide
  refine (Value.length_render_object_le 40 fun m hm => ?_).trans (by simp)
  rcases List.mem_pair.mp hm with rfl | rfl <;> dsimp only <;> omega

end AutoSetting

end FanControl
