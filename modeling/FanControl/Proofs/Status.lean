import FanControl.Proofs.Json.Record
import FanControl.Status

/-!
# Printed reports of the status

A report is read back as it was printed, save for its temperature: a decimal is read as a number of
double precision first, and what is not finite is left out. Whatever the temperature is, **the
report is readable**, and what is known from it hangs on the text of the temperature alone.

## Main results

* `StatusReport.ofBytes_render`: a report is read back up to its temperature;
* `StatusReport.ofReport_ofBytes`: what is known from the text of a report.
-/

namespace FanControl

open FloatingPoint Json

/-! ### Truth values -/

namespace Flag

theorem faithful_reader : reader.Faithful := Reader.faithful_firstOf _ _

/-- A truth value is read as it is written. -/
theorem reader_toValue (flag : Flag) : reader.value flag.toValue = .ok flag := by
  cases flag with
  | literal b => rfl
  | number i =>
      have hint : (Value.integer i.toInt).int64? = some i := Value.int64?_toInt i
      simp only [reader, toValue, Reader.firstOf, Reader.firstOf.choose, List.findSome?_cons, hint]
      rfl

/-- A value is read as a truth value exactly if it is the one that is written for it. -/
theorem reader_eq_ok_iff {v : Value} {flag : Flag} :
    reader.value v = .ok flag ↔ v = flag.toValue := by
  refine ⟨fun h => ?_, fun h => h ▸ reader_toValue flag⟩
  cases v with
  | boolean b =>
      obtain rfl := Except.ok.inj h
      rfl
  | number n =>
      cases hint : (Value.number n).int64? with
      | none => simp [reader, Reader.firstOf, Reader.firstOf.choose, hint] at h
      | some i =>
          obtain rfl : .number i = flag := by
            simpa [reader, Reader.firstOf, Reader.firstOf.choose, hint] using h
          exact Value.int64?_eq_some_iff.mp hint
  | _ => cases h

/-- The text of a truth value holds it. -/
theorem holds_toValue (flag : Flag) (depth : Nat) :
    Value.Holds depth flag.toValue flag.toValue := by
  cases flag with
  | literal b => exact Value.holds_boolean b
  | number i => exact Value.holds_integer (Value.fitsWord_int64 i)

/-- **A truth value is read back** in the form that it has. -/
theorem ofBytes_render : reader.ReadsBack toValue := fun flag =>
  (faithful_reader.ofBytes_render (flag.holds_toValue depthLimit)).trans (reader_toValue flag)

end Flag

/-! ### Reports -/

namespace StatusReport

/-- The text of a temperature. -/
def temperatureBody (x : Binary32) : Bytes := Text.bytes (Value.number (.single x)).render

/-- The temperature that is read from the text of one. -/
def reread (x : Binary32) : Option Binary32 :=
  (Reader.single.optional.ofBytes (temperatureBody x)).toOption.join

/-- **The text of a temperature can be read**, though nothing may be read from it. -/
theorem holds_temperature (x : Binary32) :
    ∃ w, Value.Holds 126 (.number (.single x)) w ∧
      Reader.single.optional.value w = .ok (reread x) := by
  have hread {w : Value} {y : Option Binary32}
      (hw : Value.Holds depthLimit (.number (.single x)) w)
      (hy : Reader.single.optional.value w = .ok y) : y = reread x := by
    have htext : Reader.single.optional.ofBytes (temperatureBody x) = .ok y :=
      (Reader.faithful_single.optional.ofBytes_render hw).trans hy
    rw [reread, htext]
    cases y <;> rfl
  cases hfinite : x.isFinite with
  | false =>
      refine ⟨.null, Value.holds_single_null hfinite, ?_⟩
      rw [← hread (Value.holds_single_null hfinite) rfl]
      rfl
  | true =>
      obtain ⟨n, hn⟩ := Value.holds_single hfinite
      obtain ⟨y, hy⟩ := Reader.single_value n
      have hoptional : Reader.single.optional.value (.number n) = .ok (some y) := by
        rw [Reader.optional_value _ Value.noConfusion, hy]
        rfl
      exact ⟨.number n, hn 126, hread (hn depthLimit) hoptional ▸ hoptional⟩

/-- Nothing is read from the text of a temperature that is not finite. -/
theorem reread_of_not_isFinite {x : Binary32} (h : x.isFinite = false) : reread x = none := by
  rw [reread, temperatureBody,
    Reader.faithful_single.optional.ofBytes_render (Value.holds_single_null h)]
  rfl

/-- A temperature whose text gives the temperature back is read from it. -/
theorem reread_of_ofBytes {x y : Binary32} (hfinite : x.isFinite = true)
    (h : Reader.single.ofBytes (temperatureBody x) = .ok y) : reread x = some y := by
  obtain ⟨n, hn⟩ := Value.holds_single hfinite
  rw [temperatureBody, Reader.faithful_single.ofBytes_render (hn depthLimit)] at h
  rw [reread, temperatureBody, Reader.faithful_single.optional.ofBytes_render (hn depthLimit),
    Reader.optional_value _ Value.noConfusion, h]
  rfl

/-- **A report is read back, save for its temperature**, of which is read what is read from its
text. -/
theorem ofBytes_render (r : StatusReport) :
    reader.ofBytes (Text.bytes r.toValue.render) =
      .ok { r with temperature := r.temperature.bind reread } := by
  obtain ⟨printed, hprinted, hread, hnone⟩ : ∃ printed : Option Value,
      (r.temperature.map fun x => Value.number (.single x)).Rel (Value.Holds 126) printed ∧
      (∀ v ∈ printed, Reader.single.optional.value v = .ok (r.temperature.bind reread)) ∧
      (printed = none → r.temperature.bind reread = none) := by
    cases r.temperature with
    | none => exact ⟨none, .none, by simp, fun _ => rfl⟩
    | some x =>
        obtain ⟨w, hw, hread⟩ := holds_temperature x
        exact ⟨some w, .some hw, by simpa using hread, by simp⟩
  have hflag := Reader.optional_value_map (fun flag => by cases flag <;> exact Value.noConfusion)
    Flag.reader_toValue r.presence
  have hmembers : Value.MembersHold 126 _ _ :=
    .optional "temp" hprinted <|
      .optional "pir" (Value.rel_holds_map (fun flag => flag.holds_toValue 126) r.presence) <|
        .optional "mode" (Value.rel_holds_int64 r.mode) <|
          .optional "pwm" (Value.rel_holds_int64 r.output) .nil
  rw [toValue]
  simp only [Value.filterMap_optional, List.filterMap_nil]
  refine (Record.ofBytes_render ?_ hmembers).trans ?_
  · simp [Field.faithful_optional, Flag.faithful_reader, Reader.faithful_int64,
      Reader.faithful_single]
  · have hleft {β : Type} {write : β → Value} {o : Option β} (h : o.map write = none) : o = none :=
      Option.map_eq_none_iff.mp h
    rw [Record.memberValues_optional rfl (by simp) hread hnone rfl,
      Record.memberValues_optional rfl (by simp) hflag hleft rfl,
      Record.memberValues_optional rfl (by simp) (Reader.optional_int64_value r.mode) hleft rfl,
      Record.memberValues_optional rfl (by simp) (Reader.optional_int64_value r.output) hleft rfl,
      Record.memberValues_nil]
    rfl

/-- **From the text of a report the same is known as from the report**, if the text of its
temperature gives the temperature back, or if there is none that is finite. -/
theorem ofReport_ofBytes (r : StatusReport)
    (h : ∀ x, r.temperature = some x → x.isFinite = true →
      Reader.single.ofBytes (temperatureBody x) = .ok x) :
    (reader.ofBytes (Text.bytes r.toValue.render)).map Status.ofReport = .ok (.ofReport r) := by
  have htemperature : (r.temperature.bind reread).filter Binary32.isFinite =
      r.temperature.filter Binary32.isFinite := by
    cases hr : r.temperature with
    | none => rfl
    | some x =>
        cases hfinite : x.isFinite with
        | false => simp [reread_of_not_isFinite hfinite, Option.filter, hfinite]
        | true => simp [reread_of_ofBytes hfinite (h x hr hfinite)]
  rw [ofBytes_render]
  simp only [Except.map, Status.ofReport, htemperature]

end StatusReport

end FanControl
