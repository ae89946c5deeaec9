import FanControl.Proofs.Json.Record
import FanControl.Wifi

/-!
# Joining a wireless network, on the wire

The credentials that are sent and the status that is given out are read back as they were printed.
The name and the password of a network may be **any texts at all**, with quotes, backslashes and
controls in them.

## Main results

* `Credentials.ofBytes_render`, `StatusReport.ofBytes_render`: both bodies.
-/

namespace FanControl.Wifi

open Json

/-- **Credentials are read back**, whatever texts they are. -/
theorem Credentials.ofBytes_render : reader.ReadsBack toValue := by
  intro c
  have hmembers : Value.MembersHold 126
      [("selectedSSID", .string c.ssid), ("pwd", .string c.password),
        ("timestamp", .integer c.timestamp.toInt)]
      [("selectedSSID", .string c.ssid), ("pwd", .string c.password),
        ("timestamp", .integer c.timestamp.toInt)] :=
    .cons ⟨rfl, Value.holds_string c.ssid⟩ <| .cons ⟨rfl, Value.holds_string c.password⟩ <|
      .cons ⟨rfl, Value.holds_integer (Value.fitsWord_int64 c.timestamp)⟩ .nil
  refine (Record.ofBytes_render ?_ hmembers).trans ?_
  · simp [Field.faithful_required, Reader.faithful_string, Reader.faithful_int64]
  · rw [Record.memberValues_field rfl (by simp) (Reader.map_value _ (Reader.string_value c.ssid)),
      Record.memberValues_field rfl (by simp) (Reader.map_value _ (Reader.string_value c.password)),
      Record.memberValues_field rfl (by simp) (Reader.map_value _ (Reader.int64_value c.timestamp)),
      Record.memberValues_nil]
    rfl

/-- **The status is read back.** -/
theorem StatusReport.ofBytes_render : reader.ReadsBack toValue := by
  intro r
  have hmembers : Value.MembersHold 126 [("wifi_connect_status", .integer r.code.toInt)]
      [("wifi_connect_status", .integer r.code.toInt)] :=
    .cons ⟨rfl, Value.holds_integer (Value.fitsWord_int32 r.code)⟩ .nil
  refine (Record.ofBytes_render ?_ hmembers).trans ?_
  · simp [Field.faithful_required, Reader.faithful_int32]
  · rw [Record.memberValues_field rfl (by simp) (Reader.map_value _ (Reader.int32_value r.code)),
      Record.memberValues_nil]
    rfl

end FanControl.Wifi
