import FanControl.Proofs.Schedule.Dialect
import FanControl.Proofs.Settings
import FanControl.Session.Client

/-!
# Calls to a simulated device

What a client's call makes of a device and what the client makes of the answer, through the request,
its text, the route, the reader and the answer's text. **Every call reaches its own route**, in
either dialect, and no body that a client sends is refused.

## Main results

* `Device.serve_request`: a call reaches its route;
* `Client.call_saveManual` up to `Client.call_eraseSlot`: the calls that write;
* `Client.call_loadManual`, `Client.call_loadAuto`, `Client.call_loadSlot`, `Client.fetch_report`:
  the calls that read.
-/

namespace FanControl

open Http Json

variable (client : Client) (minute : Nat) (d : Device)

/-! ### Requests -/

/-- **A call reaches its route.** -/
theorem Device.serve_request (c : Call) :
    d.serve minute (client.request c) =
      d.handle minute (c.route client.dialect) (client.request c) := by
  obtain ⟨baseUrl, dialect⟩ := client
  cases dialect <;> cases c <;> rfl

/-- A body that is sent is read as what its text holds. -/
theorem Device.valueBody_postRequest (path : String) {v w : Value}
    (hholds : Value.Holds depthLimit v w) (hlength : (Text.bytes v.render).length ≤ 400) :
    valueBody (Client.postRequest path v) = .ok w := by
  have hjson : ((some "application/json").bind MediaType.parse?).any MediaType.isJson = true := by
    decide
  have hlimit : 400 ≤ jsonLimit := by decide
  have hread : Value.ofBytes? (Text.bytes v.render) = .ok w := hholds.ofBytes?_render
  simp only [valueBody, readBody, Client.postRequest, hjson, hread, liftFault, Bool.not_true,
    Bool.false_eq_true, if_false, if_neg (Nat.not_lt.mpr (hlength.trans hlimit))]

/-- A query says which slot is meant. -/
theorem Device.querySlot?_query (dialect : Dialect) (id : SlotId) :
    querySlot? dialect ((Call.loadSlot id).query dialect) = some id := by
  cases dialect <;> cases id <;> decide +kernel

/-! ### Answers -/

/-- The body of an answer is what it is read as. -/
theorem Client.readJson_json {α : Type} (target : String) {reader : Reader α} {v : Value} {a : α}
    (h : reader.ofBytes (Text.bytes v.render) = .ok a) :
    readJson target reader (.json 200 v) = .ok a := by
  have hbody : reader.ofBytes (Response.json 200 v).body = .ok a := h
  rw [readJson, hbody]
  rfl

namespace Client

/-- A call is answered by its route. -/
theorem call_link (c : Call) :
    client.call (Device.link minute) c d =
      (client.interpret c (d.handle minute (c.route client.dialect) (client.request c)).1,
        (d.handle minute (c.route client.dialect) (client.request c)).2) := by
  rw [call, Device.link, d.serve_request]

/-! ### Calls that write -/

/-- **A manual output is stored, up to full output.** -/
theorem call_saveManual (setting : ManualSetting) :
    client.call (Device.link minute) (.saveManual setting) d =
      (.ok (), { d with manual := ⟨min setting.pwm 100⟩ }.inMode .manual) := by
  let request := ManualRequest.ofSetting setting
  have hbody : Device.valueBody (client.request (.saveManual setting)) = .ok request.toValue :=
    Device.valueBody_postRequest _ request.holds_toValue request.length_toValue_le
  have hpwm : Device.wholeNumber? request.toValue "pwm" = some request.pwm :=
    Value.int64?_toInt request.pwm
  have hstored : ManualSetting.ofInt64 request.pwm = ⟨min setting.pwm 100⟩ :=
    congrArg ManualSetting.mk (percent_ofInt setting.pwm)
  rw [call_link]
  simp only [Call.route, Device.handle, Device.withBody, hbody, Device.setManual, hpwm, hstored]
  rfl

/-- **A band is stored as it is sent**, whichever of its ends is the greater one. -/
theorem call_saveAuto (band : AutoSetting) :
    client.call (Device.link minute) (.saveAuto band) d =
      (.ok (), { d with auto := band }.inMode .auto) := by
  have hbody : Device.valueBody (client.request (.saveAuto band)) =
      .ok (.object band.heldMembers) :=
    Device.valueBody_postRequest _ band.holds_toValue band.length_toValue_le
  have hmin : Device.wholeNumber? (.object band.heldMembers) "tmin" =
      some (Int64.ofInt band.tmin.toInt) :=
    Value.int64?_int32 band.tmin
  have hmax : Device.wholeNumber? (.object band.heldMembers) "tmax" =
      some (Int64.ofInt band.tmax.toInt) :=
    Value.int64?_int32 band.tmax
  rw [call_link]
  simp only [Call.route, Device.handle, Device.withBody, hbody, Device.setAuto, hmin, hmax,
    clampInt32_ofInt]
  rfl

/-- **A slot is stored under its number**, with each field held within its range. -/
theorem call_saveSlot (slot : Slot) :
    client.call (Device.link minute) (.saveSlot slot) d =
      (.ok (), { d with slots := d.slots.put slot.sanitize }.inMode .scheduled) := by
  have hbody : Device.valueBody (client.request (.saveSlot slot)) =
      .ok (client.dialect.encodeSet slot) :=
    Device.valueBody_postRequest _ (client.dialect.holds_encodeSet slot)
      (client.dialect.length_encodeSet_le slot)
  rw [call_link]
  simp only [Call.route, Device.handle, Device.withBody, hbody, Device.setSlot,
    Dialect.decodeSet_encodeSet]
  rfl

/-- **A slot that is erased is forgotten**, and the mode stays. -/
theorem call_eraseSlot (id : SlotId) :
    client.call (Device.link minute) (.eraseSlot id) d =
      (.ok (), { d with slots := d.slots.set id none }) := by
  have hbody : Device.valueBody (client.request (.eraseSlot id)) =
      .ok (client.dialect.encodeErase id) :=
    Device.valueBody_postRequest _ (client.dialect.holds_encodeErase id)
      (client.dialect.length_encodeErase_le id)
  rw [call_link]
  simp only [Call.route, Device.handle, Device.withBody, hbody, Device.eraseSlot,
    Dialect.decodeSelector_encodeErase]
  rfl

/-! ### Calls that read -/

/-- **The manual output is given out with the mode.** -/
theorem call_loadManual :
    client.call (Device.link minute) .loadManual d =
      (.ok (⟨some (Int64.ofNat d.manual.pwm.toNat), some d.modeCode⟩ : ManualReport), d) := by
  rw [call_link]
  exact congrArg (·, d) (readJson_json _ (ManualReport.ofBytes_render _))

/-- **The band is given out with the mode.** -/
theorem call_loadAuto :
    client.call (Device.link minute) .loadAuto d =
      (.ok (⟨some (Int64.ofInt d.auto.tmin.toInt), some (Int64.ofInt d.auto.tmax.toInt),
        some d.modeCode⟩ : AutoReport), d) := by
  rw [call_link]
  exact congrArg (·, d) (readJson_json _ (AutoReport.ofBytes_render _))

/-- **A slot is given out with the number that it was asked for by**, and with each field held
within its range; one that there is not is not found. -/
theorem call_loadSlot (id : SlotId) :
    client.call (Device.link minute) (.loadSlot id) d =
      (match d.slots.get id with
        | some slot => .ok { slot with id }.sanitize
        | none => .error (.noSlot id), d) := by
  have hquery : Device.querySlot? client.dialect (client.request (.loadSlot id)).query = some id :=
    Device.querySlot?_query client.dialect id
  rw [call_link]
  simp only [Call.route, Device.handle, Device.getSlot, hquery]
  cases d.slots.get id with
  | none => rfl
  | some slot =>
      have hbody : Dialect.decodeLoaded id
          (Response.json 200 (client.dialect.encodeLoaded slot)).body =
            .ok { slot with id }.sanitize :=
        client.dialect.decodeLoaded_encodeLoaded slot id
      simp only [interpret, hbody]
      rfl

/-- **The status is given out as the report of the device**, of which a client reads everything but
a temperature that cannot be read back. -/
theorem fetch_report :
    fetch (Device.link minute) d =
      (.ok (.ofReport { d.statusReport minute with
        temperature := d.temperature.bind StatusReport.reread }), d) := by
  have hserve : d.serve minute (getRequest Route.status.path "") =
      (.json 200 (d.statusReport minute).toValue, d) :=
    rfl
  have hanswer := readJson_json Route.status.path (d.statusReport minute).ofBytes_render
  simp only [fetch, Device.link, hserve, hanswer]
  rfl

/-- **The status is given out with the mode.** -/
theorem fetch_link :
    ∃ status, fetch (Device.link minute) d = (.ok status, d) ∧
      status.mode = some (.ofCode d.modeCode) :=
  ⟨_, fetch_report minute d, rfl⟩

end Client

end FanControl
