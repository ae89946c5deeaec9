import FanControl.Proofs.Device.Upload
import FanControl.Proofs.Schedule.Dialect
import FanControl.Proofs.Settings
import FanControl.Proofs.Status
import FanControl.Proofs.Wifi

/-!
# Bodies there and back

A client and a device write and read the same bodies. **Each body is read back as it was written**:
with its numbers at the ends of their ranges, with any of the fields that may be left out left out,
and with any texts.

A report of the status is the exception, because of its temperature. Its decimal is read in double
precision and rounded once more, and a temperature that is not finite leaves nothing to be read. But
whatever keeps its temperature keeps all that is known from the report.

## Main results

* `bodies_readBack`: all bodies.
-/

namespace FanControl

open Json FloatingPoint

/-- **Bodies are read back as they were written**: the settings, the reports of them, what joins a
wireless network and tells of it, the verdict on a firmware image, a truth value in either form and
the name of a dialect. From the text of a report of the status the same is known as from the report,
if its temperature is missing, is not finite, or is read back from its own text. -/
theorem bodies_readBack :
    ManualReport.reader.ReadsBack ManualReport.toValue ∧
    AutoReport.reader.ReadsBack AutoReport.toValue ∧
    AutoSetting.reader.ReadsBack AutoSetting.toValue ∧
    ManualRequest.reader.ReadsBack ManualRequest.toValue ∧
    Wifi.Credentials.reader.ReadsBack Wifi.Credentials.toValue ∧
    Wifi.StatusReport.reader.ReadsBack Wifi.StatusReport.toValue ∧
    VerdictBody.reader.ReadsBack VerdictBody.toValue ∧
    Flag.reader.ReadsBack Flag.toValue ∧
    Dialect.reader.ReadsBack Dialect.toValue ∧
    ∀ r : StatusReport,
      (∀ x, r.temperature = some x → x.isFinite = true →
        Reader.single.ofBytes (StatusReport.temperatureBody x) = .ok x) →
      (StatusReport.reader.ofBytes (Text.bytes r.toValue.render)).map Status.ofReport =
        .ok (.ofReport r) :=
  ⟨ManualReport.ofBytes_render, AutoReport.ofBytes_render, AutoSetting.ofBytes_render,
    ManualRequest.ofBytes_render, Wifi.Credentials.ofBytes_render,
    Wifi.StatusReport.ofBytes_render, VerdictBody.ofBytes_render, Flag.ofBytes_render,
    Dialect.ofBytes_render, StatusReport.ofReport_ofBytes⟩

/-- A report of 21.3 degrees, without a mode, is as good as its text. -/
theorem bodies_readBack_mild :
    let r : StatusReport := ⟨some ⟨0x41AA6666⟩, some (.number 1), none, some (-1)⟩
    (StatusReport.reader.ofBytes (Text.bytes r.toValue.render)).map Status.ofReport =
      .ok (.ofReport r) := by
  intro r
  obtain ⟨-, -, -, -, -, -, -, -, -, hstatus⟩ := bodies_readBack
  refine hstatus r fun x hx _ => ?_
  obtain rfl := Option.some.inj hx
  decide +kernel

end FanControl
