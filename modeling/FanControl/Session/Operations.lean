import FanControl.Session.Basic

/-!
# What an operator can do

Every operation says on the dashboard what became of it and gives its outcome. A load that
succeeds fills its form; a save sends what the form stands for at that moment; neither changes the
mode that is shown, which waits for the next status report.
-/

namespace FanControl.Session

open Operation

/-- Puts a notice on a panel. -/
def notify (panel : Mode) (notice : Notice) : Operation Unit :=
  modify fun s => { s with dashboard := s.dashboard.setNotice panel notice }

/-- Shows a panel. -/
def selectPanel (panel : Mode) : Operation Unit :=
  modify fun s => { s with dashboard := s.dashboard.selectPanel panel }

/-- Turns to a slot. -/
def selectSlot (id : SlotId) : Operation Unit := modify fun s => { s with selectedSlot := id }

/-! ### The manual panel -/

/-- Reads the manual output of the device into its form. -/
def loadManual : Operation (Except Failure ManualSetting) := do
  match ← call .loadManual with
  | .error e => return .error e
  | .ok (report : ManualReport) =>
    modify fun s => { s with manualForm := .ofSetting report.setting }
    return .ok report.setting

/-- Sends the manual output of the form. -/
def saveManual : Operation (Except Failure ManualSetting) := do
  let setting := (← get).manualForm.toSetting
  notify .manual .saving
  match ← call (.saveManual setting) with
  | .ok _ =>
    notify .manual (.pwmApplied setting.pwm)
    return .ok setting
  | .error e =>
    notify .manual .pwmFailed
    return .error e

/-! ### The automatic panel -/

/-- Reads the band of the device into its form. A bound that the device leaves out is the one that
the form stood for. -/
def loadAuto : Operation (Except Failure AutoSetting) := do
  let current := (← get).autoForm.toSetting
  match ← call .loadAuto with
  | .error e => return .error e
  | .ok (report : AutoReport) =>
    let setting := report.setting current
    modify fun s => { s with autoForm := .ofSetting setting }
    return .ok setting

/-- Sends the band of the form. -/
def saveAuto : Operation (Except Failure AutoSetting) := do
  let setting := (← get).autoForm.toSetting
  notify .auto .saving
  match ← call (.saveAuto setting) with
  | .ok _ =>
    notify .auto .configSaved
    return .ok setting
  | .error e =>
    notify .auto .saveFailed
    return .error e

/-! ### The schedule panel -/

/-- Reads the selected slot of the device into the form. A slot that is not there leaves the form
as it is. -/
def loadSlot : Operation (Except Failure Slot) := do
  notify .scheduled .reading
  match ← call (.loadSlot (← get).selectedSlot) with
  | .ok (slot : Slot) =>
    modify fun s => { s with slotForm := .ofSlot slot }
    notify .scheduled .slotLoaded
    return .ok slot
  | .error e =>
    notify .scheduled .slotMissing
    return .error e

/-- Sends the slot of the form as the selected one. -/
def saveSlot : Operation (Except Failure Slot) := do
  let s ← get
  let slot := s.slotForm.toSlot s.selectedSlot
  notify .scheduled .saving
  match ← call (.saveSlot slot) with
  | .ok _ =>
    notify .scheduled .slotSaved
    return .ok slot
  | .error e =>
    notify .scheduled .saveFailed
    return .error e

/-- Has the selected slot erased. The form keeps its texts but is not active any more. -/
def eraseSlot : Operation (Except Failure Unit) := do
  notify .scheduled .erasing
  match ← call (.eraseSlot (← get).selectedSlot) with
  | .ok _ =>
    modify fun s => { s with slotForm := { s.slotForm with active := false } }
    notify .scheduled .slotErased
    return .ok ()
  | .error e =>
    notify .scheduled .eraseFailed
    return .error e

/-- Forgets what an operation gave, except for whether it failed. -/
def withResult {α β : Type} (b : β) (r : Except Failure α) : Except Failure β := r.map fun _ => b

/-- Saves the panel on screen, which is how the device is told to take up its mode. -/
def applyMode : Operation (Except Failure Mode) := do
  match (← get).dashboard.panel.visible with
  | none =>
    modify fun s => { s with dashboard := s.dashboard.setModeNotice .selectModeFirst }
    return .error (.input .noModeSelected)
  | some mode =>
    modify fun s => { s with dashboard := s.dashboard.setModeNotice (.applyingMode mode) }
    match mode with
    | .manual => return withResult mode (← saveManual)
    | .auto => return withResult mode (← saveAuto)
    | .scheduled => return withResult mode (← saveSlot)

/-! ### Polling -/

/-- Ends polling, and the dashboard is not kept up to date any more. -/
def stop : Operation Unit :=
  modify fun s => { s with poller := s.poller.stop, feed := s.feed.unsubscribe }

/-- Begins polling and reads the three panels. What cannot be read leaves its form as it is. A
session that was polling begins anew. -/
def start : Operation Unit := do
  stop
  modify fun s => { s with
    feed := s.feed.subscribe
    poller := s.poller.start s.configuration.pollIntervalMs.toNat }
  let _ ← loadManual
  let _ ← loadAuto
  let _ ← loadSlot

/-! ### Firmware -/

/-- What is reported of an image that the device rejected. -/
def rejectedImage : Failure := .device "firmware image rejected (ota_update_status -1)"

/-- Makes the way free for another update, unless the device is rebooting. -/
def resetUpdate : Operation Bool := fun s =>
  let (done, lifecycle) := s.lifecycle.reset
  .done { s with lifecycle } done

/-- Starts from nothing with a device that has rebooted into other firmware. -/
def reload : Operation Unit := do
  stop
  modify fun s => { s with
    dashboard := .empty
    manualForm := .empty
    autoForm := .empty
    slotForm := .empty
    selectedSlot := .first }
  let _ ← resetUpdate
  start

/-- Uploads the one selected image and follows the device until it is back, and then reloads. A
rejected image is a failure. -/
def updateFirmware (files : List FirmwareImage) : Operation (Except Failure UpdatePhase) := do
  match ← update files with
  | .error e =>
    match e with
    | .input cause =>
      modify fun s => { s with dashboard := s.dashboard.setUpdateMessage cause.message }
    | _ => pure ()
    return .error e
  | .ok .succeeded =>
    reload
    return .ok .succeeded
  | .ok .failed => return .error rejectedImage
  | .ok phase => return .ok phase

/-! ### Wireless network -/

/-- Sends credentials, neither of which may be empty, at a time given in milliseconds since the
epoch. -/
def connectWifi (ssid password : String) (timestamp : Int64) : Operation (Except Failure Unit) :=
  if ssid = "" then return .error (.input (.emptyField "SSID"))
  else if password = "" then return .error (.input (.emptyField "Password"))
  else do
    match ← call (.connectWifi ⟨ssid, password, timestamp⟩) with
    | .ok _ => return .ok ()
    | .error e => return .error e

/-- How far the device has got with the credentials. -/
def wifiStatus : Operation (Except Failure Wifi.Status) := do
  match ← call .wifiStatus with
  | .ok (status : Wifi.Status) => return .ok status
  | .error e => return .error e

end FanControl.Session
