import FanControl.Decimal.Text
import FanControl.Firmware.Lifecycle
import FanControl.Panel

/-!
# The dashboard

All that an operator sees, as texts: the last reported value of each quantity, a notice per panel
about the last action there, a notice about the mode, and how a firmware update stands. A status
report changes the texts of what it holds and leaves the others as they are.
-/

namespace FanControl

/-- What is said about an action. -/
inductive Notice where
  | saving
  | pwmApplied (pwm : UInt8)
  | pwmFailed
  | configSaved
  | saveFailed
  | reading
  | slotLoaded
  | slotMissing
  | slotSaved
  | erasing
  | slotErased
  | eraseFailed
  | applyingMode (mode : Mode)
  | selectModeFirst
deriving DecidableEq, Repr

/-- What an operator reads. -/
def Notice.text : Notice → String
  | saving => "Guardando..."
  | pwmApplied pwm => "PWM aplicado: " ++ toString pwm.toNat ++ "%"
  | pwmFailed => "Error enviando PWM"
  | configSaved => "Configuración guardada."
  | saveFailed => "Error al guardar."
  | reading => "Leyendo..."
  | slotLoaded => "Registro cargado."
  | slotMissing => "No existe el registro."
  | slotSaved => "Registro guardado."
  | erasing => "Borrando..."
  | slotErased => "Registro borrado."
  | eraseFailed => "Error al borrar."
  | applyingMode mode => "Aplicando modo " ++ mode.label ++ "..."
  | selectModeFirst => "Selecciona un modo primero."

/-- The notice of each panel. -/
structure PanelNotices where
  manual : Option Notice
  auto : Option Notice
  scheduled : Option Notice
deriving DecidableEq, Repr

namespace PanelNotices

/-- No notices. -/
def none : PanelNotices := ⟨.none, .none, .none⟩

/-- The notice of a panel. -/
def get (n : PanelNotices) : Mode → Option Notice
  | .manual => n.manual
  | .auto => n.auto
  | .scheduled => n.scheduled

/-- Replaces the notice of a panel. -/
def set (n : PanelNotices) (panel : Mode) (notice : Notice) : PanelNotices :=
  match panel with
  | .manual => { n with manual := some notice }
  | .auto => { n with auto := some notice }
  | .scheduled => { n with scheduled := some notice }

end PanelNotices

/-- What an operator sees. -/
structure Dashboard where
  panel : PanelState
  temperature : Option String
  presence : Option String
  modeLabel : Option String
  output : Option String
  notices : PanelNotices
  modeNotice : Option Notice
  updateMessage : Option String
  firmware : Option String
deriving DecidableEq, Repr

/-- The text of a temperature. -/
def temperatureText (t : FloatingPoint.Binary32) : String := Decimal.oneDecimal t.decode ++ " °C"

/-- The text of a presence. -/
def presenceText (present : Bool) : String := if present then "Presencia" else "Sin presencia"

/-- The text of an output. -/
def outputText (level : UInt8) : String := toString level.toNat ++ " %"

namespace Dashboard

/-- Nothing has been reported. -/
def empty : Dashboard :=
  ⟨.initial, none, none, none, none, .none, none, none, none⟩

/-- After a status report. -/
def applyStatus (d : Dashboard) (status : Status) : Dashboard :=
  { d with
    panel := d.panel.applyStatus status
    temperature := (status.temperature.map temperatureText).or d.temperature
    presence := (status.presence.map presenceText).or d.presence
    modeLabel := (status.mode.map ReportedMode.label).or d.modeLabel
    output := (status.output.map outputText).or d.output }

/-- Whether a status report changes the mode. -/
def changesMode (d : Dashboard) (status : Status) : Bool := d.panel.changesMode status

/-- After the operator has turned to a panel. -/
def selectPanel (d : Dashboard) (panel : Mode) : Dashboard :=
  { d with panel := d.panel.select panel }

/-- With a notice on a panel. -/
def setNotice (d : Dashboard) (panel : Mode) (notice : Notice) : Dashboard :=
  { d with notices := d.notices.set panel notice }

/-- With a notice about the mode. -/
def setModeNotice (d : Dashboard) (notice : Notice) : Dashboard :=
  { d with modeNotice := some notice }

/-- After an event of a firmware update. What it says about the running firmware has a place of
its own, and a reload is not shown. -/
def applyEvent (d : Dashboard) (event : UpdateEvent) : Dashboard :=
  match event with
  | .firmwareInfo firmware => { d with firmware := some firmware.text }
  | .reload => d
  | event => { d with updateMessage := some event.text }

/-- With a message about an update that was not started. -/
def setUpdateMessage (d : Dashboard) (message : String) : Dashboard :=
  { d with updateMessage := some message }

end Dashboard

end FanControl
