import FanControl.Json.Printer
import FanControl.Json.Record

/-!
# Joining a wireless network

The credentials that an operator sends to the device, and how far the device has got with them.
-/

namespace FanControl.Wifi

open Json

/-- The body that sends credentials. -/
structure Credentials where
  ssid : String
  password : String
  /-- Milliseconds since the epoch at which they were sent. -/
  timestamp : Int64
deriving DecidableEq, Repr

namespace Credentials

/-- How credentials are read. -/
def reader : Reader Credentials :=
  Record.reader {
    name := "WifiConnectRequest"
    blank := ⟨"", "", 0⟩
    fields := [
      .required "selectedSSID" .string fun v r => { r with ssid := v },
      .required "pwd" .string fun v r => { r with password := v },
      .required "timestamp" .int64 fun v r => { r with timestamp := v }] }

/-- The body of credentials. -/
def toValue (c : Credentials) : Value :=
  .object [("selectedSSID", .string c.ssid), ("pwd", .string c.password),
    ("timestamp", .integer c.timestamp.toInt)]

end Credentials

/-- How far the device has got. -/
inductive Status where
  | idle
  | connecting
  | failed
  | connected
deriving DecidableEq, Repr

namespace Status

/-- What a number on the wire stands for; every number that is none of the others is `idle`. -/
def ofCode (code : Int32) : Status :=
  if code = 1 then connecting
  else if code = 2 then failed
  else if code = 3 then connected
  else idle

/-- The number on the wire. -/
def code : Status → Int32
  | idle => 0
  | connecting => 1
  | failed => 2
  | connected => 3

/-- What an operator reads. -/
def label : Status → String
  | idle => "Sin conexión"
  | connecting => "Conectando..."
  | failed => "Error de conexión"
  | connected => "Conectado"

end Status

/-- The body in which the device reports how far it has got. -/
structure StatusReport where
  code : Int32
deriving DecidableEq, Repr

namespace StatusReport

/-- How a report is read. -/
def reader : Reader StatusReport :=
  Record.reader {
    name := "WifiStatusPayload"
    blank := ⟨0⟩
    fields := [.required "wifi_connect_status" .int32 fun v r => { r with code := v }] }

/-- The body of a report. -/
def toValue (r : StatusReport) : Value := .object [("wifi_connect_status", .integer r.code.toInt)]

end StatusReport

end FanControl.Wifi
