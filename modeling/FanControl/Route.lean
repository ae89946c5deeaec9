import FanControl.Schedule.Dialect

/-!
# Routes

The requests that a device understands, each under a path of its own. The slot requests come in
both dialects.
-/

namespace FanControl

/-- What a device can be asked or told. -/
inductive Route where
  | status
  | manual
  | setManual
  | auto
  | setAuto
  | slot (dialect : Dialect)
  | setSlot (dialect : Dialect)
  | eraseSlot (dialect : Dialect)
  | upload
  | verdict
  | connectWifi
  | wifiStatus
deriving DecidableEq, Repr

namespace Route

/-- All routes. -/
def all : List Route := [
  status, manual, setManual, auto, setAuto,
  slot .program, setSlot .program, eraseSlot .program,
  slot .programSlot, setSlot .programSlot, eraseSlot .programSlot,
  upload, verdict, connectWifi, wifiStatus]

/-- The path of a route. -/
def path : Route → String
  | status => "/status.json"
  | manual => "/get_manual_config.json"
  | setManual => "/manual_pwm.json"
  | auto => "/auto_config.json"
  | setAuto => "/set_auto_config.json"
  | slot d => d.loadPath
  | setSlot d => d.savePath
  | eraseSlot d => d.erasePath
  | upload => "/OTAupdate"
  | verdict => "/OTAstatus"
  | connectWifi => "/wifiConnect.json"
  | wifiStatus => "/wifiConnectStatus"

/-- Whether a route only gives something out. -/
def isRead : Route → Bool
  | status | manual | auto | slot _ | wifiStatus => true
  | _ => false

/-- The route with a path. -/
def ofPath? (path : String) : Option Route := all.find? fun r => r.path == path

end Route

end FanControl
