import FanControl.Dashboard
import FanControl.Proofs.Device.Calls

/-!
# The status that a client sees

What a device remembers goes to its clients as the text of a report, and of the text a client makes
a status again. **What arrives is what the device is like**: presence as the sensor tells it, the
mode under its own number even if that stands for no mode, and the output as a percentage. Only a
temperature may be lost on the way, if it is no finite number or if its text is not read back.

A dashboard that is shown such a status turns to the panel of the device's mode, whatever was on
screen before, and to none if the mode is unknown.

## Main results

* `Device.seenAs_ofReport`: what a report says of the device;
* `Dashboard.isVisible_applyStatus`, `Dashboard.visibleCount_applyStatus`: what a mode brings on
  screen;
* `Device.status_seen`: all of this for every device, through the text of its answer.
-/

namespace FanControl

open FloatingPoint Json

/-! ### What a report says of the device -/

/-- A number is reported as unrecognized just when it stands for no mode, and then as it is. -/
theorem ReportedMode.ofCode_eq_unrecognized_iff {code other : Int64} :
    ofCode code = unrecognized other ↔
      code = other ∧ ∀ mode : Mode, other ≠ Int64.ofNat mode.code := by
  constructor
  · intro h
    have hcode : code = other := by
      rw [← code_ofCode code, h]
      rfl
    refine ⟨hcode, fun mode hmode => ?_⟩
    rw [hcode, ofCode_eq_known_iff.mpr hmode] at h
    cases h
  · rintro ⟨rfl, hunknown⟩
    have hnone : Mode.ofCode? code = none := by
      rw [Option.eq_none_iff_forall_not_mem]
      intro mode hmode
      exact hunknown mode (Mode.ofCode?_eq_some_iff.mp hmode)
    rw [ofCode, hnone]

/-- **What a status says of a device** at a minute of the day, its temperature left aside. -/
structure Device.SeenAs (d : Device) (minute : Nat) (status : Status) : Prop where
  presence : status.presence = d.presence
  known (mode : Mode) : status.mode = some (.known mode) ↔ d.modeCode = Int64.ofNat mode.code
  unrecognized (code : Int64) : status.mode = some (.unrecognized code) ↔
    d.modeCode = code ∧ ∀ mode : Mode, code ≠ Int64.ofNat mode.code
  output : status.output = some (min (d.outputLevel minute) 100)

/-- **A report says of the device what it is like**, whatever becomes of the temperature. -/
theorem Device.seenAs_ofReport (d : Device) (minute : Nat) (temperature : Option Binary32) :
    d.SeenAs minute (.ofReport { d.statusReport minute with temperature }) where
  presence := by
    simp only [Status.ofReport, statusReport, Option.map_map]
    rcases d.presence with _ | present
    · rfl
    · cases present <;> rfl
  known mode := by
    simp only [Status.ofReport, statusReport, Option.map_some, Option.some.injEq]
    exact ReportedMode.ofCode_eq_known_iff
  unrecognized code := by
    simp only [Status.ofReport, statusReport, Option.map_some, Option.some.injEq]
    exact ReportedMode.ofCode_eq_unrecognized_iff
  output := congrArg some (percent_ofInt (d.outputLevel minute))

/-! ### What a mode brings on screen -/

namespace Dashboard

variable {status : Status} {code : Int64}

/-- A status with a mode turns to its panel, and one with an unknown mode away from all. -/
theorem panel_applyStatus (board : Dashboard) (h : status.mode = some (.ofCode code)) :
    (board.applyStatus status).panel = ⟨Mode.ofCode? code, Mode.ofCode? code⟩ := by
  rw [applyStatus, PanelState.applyStatus, h]
  simp only [ReportedMode.mode?_ofCode]

/-- **The panel on screen is that of the mode.** -/
theorem isVisible_applyStatus (board : Dashboard) (h : status.mode = some (.ofCode code))
    (panel : Mode) :
    (board.applyStatus status).panel.isVisible panel = true ↔ code = Int64.ofNat panel.code := by
  rw [board.panel_applyStatus h, PanelState.isVisible, beq_iff_eq]
  exact Mode.ofCode?_eq_some_iff

/-- **One panel is on screen**, or none if the mode is unknown. -/
theorem visibleCount_applyStatus (board : Dashboard) (h : status.mode = some (.ofCode code)) :
    (board.applyStatus status).panel.visibleCount =
      if (Mode.ofCode? code).isSome then 1 else 0 := by
  rw [board.panel_applyStatus h]
  exact PanelState.visibleCount_eq _

end Dashboard

/-! ### Through the text of the answer -/

/-- **A client sees the device as it is.** The text with which a device answers a request for its
status can always be read, and what is read is what the device is like at that minute. Its
temperature is there just when it is a finite number, if its text is read back. The answer leaves
the device as it was, and puts the panel of its mode on any dashboard, or no panel if it has no
mode. -/
theorem Device.status_seen (d : Device) (minute : Nat) :
    ∃ status : Status,
      (StatusReport.reader.ofBytes
        (d.serve minute (Client.getRequest Route.status.path "")).1.body).map Status.ofReport =
          .ok status ∧
      Client.fetch (Device.link minute) d = (.ok status, d) ∧
      d.SeenAs minute status ∧
      ((∀ x, d.temperature = some x → x.isFinite = true →
          Reader.single.ofBytes (StatusReport.temperatureBody x) = .ok x) →
        status.temperature = d.temperature.filter Binary32.isFinite) ∧
      ∀ board : Dashboard,
        (∀ panel, (board.applyStatus status).panel.isVisible panel = true ↔
          d.modeCode = Int64.ofNat panel.code) ∧
        (board.applyStatus status).panel.visibleCount = if d.mode?.isSome then 1 else 0 := by
  let report : StatusReport :=
    { d.statusReport minute with temperature := d.temperature.bind StatusReport.reread }
  have hread : (StatusReport.reader.ofBytes
      (Text.bytes (d.statusReport minute).toValue.render)).map Status.ofReport =
        .ok (.ofReport report) := by
    rw [StatusReport.ofBytes_render]
    rfl
  refine ⟨.ofReport report, hread, Client.fetch_report minute d, d.seenAs_ofReport minute _, ?_, ?_⟩
  · intro htext
    have hsame := hread.symm.trans ((d.statusReport minute).ofReport_ofBytes htext)
    exact congrArg Status.temperature (Except.ok.inj hsame)
  · intro board
    exact ⟨board.isVisible_applyStatus rfl, board.visibleCount_applyStatus rfl⟩

/-- A device at 21.3 degrees that has been set by hand beyond its full output, and does not know of
anybody, is seen at full output, with its temperature and in its mode. -/
theorem Device.status_seen_fullOutput :
    let d : Device := { Device.initial with
      manual := ⟨250⟩, temperature := some ⟨0x41AA6666⟩, presence := none }
    ∃ status : Status,
      Client.fetch (Device.link 600) d = (.ok status, d) ∧
      status = ⟨some ⟨0x41AA6666⟩, none, some (.known .manual), some 100⟩ ∧
      (Dashboard.empty.applyStatus status).panel.isVisible .manual = true := by
  intro d
  obtain ⟨status, -, hfetch, hseen, htemperature, hboard⟩ := d.status_seen 600
  refine ⟨status, hfetch, ?_, ((hboard Dashboard.empty).1 .manual).mpr rfl⟩
  have htext (x : Binary32) (hx : d.temperature = some x) (_ : x.isFinite = true) :
      Reader.single.ofBytes (StatusReport.temperatureBody x) = .ok x := by
    obtain rfl := Option.some.inj hx
    decide +kernel
  obtain ⟨temperature, presence, mode, output⟩ := status
  simp only [Status.mk.injEq]
  refine ⟨(htemperature htext).trans ?_, hseen.presence, (hseen.known .manual).mpr rfl,
    hseen.output⟩
  decide +kernel

end FanControl
