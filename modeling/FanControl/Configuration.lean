import FanControl.Schedule.Dialect

/-!
# Session configuration

Where the device is, how often it is asked, how long an answer may take, which dialect it speaks
and how its reboot is counted down. A configuration may come from a file that names only some of
the fields; the others keep their default values.

Whatever it comes from, a configuration is put in order before use: the address loses the blanks
around it and the slashes at its end, and what has to be positive and is zero gets its default.
-/

namespace FanControl

open Json

/-- The configuration of a session. -/
structure Configuration where
  deviceUrl : String
  pollIntervalMs : UInt64
  requestTimeoutMs : UInt64
  uploadTimeoutMs : UInt64
  dialect : Dialect
  countdown : UInt32
  tickMs : UInt64
deriving DecidableEq, Repr

namespace Configuration

/-- What holds where nothing else is said. -/
def default : Configuration where
  deviceUrl := "http://192.168.4.1"
  pollIntervalMs := 2500
  requestTimeoutMs := 5000
  uploadTimeoutMs := 120000
  dialect := .programSlot
  countdown := 10
  tickMs := 1000

/-- The fields of a configuration, all of which may be left out. -/
def record : Record Configuration where
  name := "SessionConfig"
  blank := default
  fields := [
    .withDefault "device_url" .string fun v r => { r with deviceUrl := v },
    .withDefault "poll_interval_ms" .uint64 fun v r => { r with pollIntervalMs := v },
    .withDefault "request_timeout_ms" .uint64 fun v r => { r with requestTimeoutMs := v },
    .withDefault "upload_timeout_ms" .uint64 fun v r => { r with uploadTimeoutMs := v },
    .withDefault "slot_protocol" Dialect.reader fun v r => { r with dialect := v },
    .withDefault "ota_countdown_secs" .uint32 fun v r => { r with countdown := v },
    .withDefault "ota_tick_ms" .uint64 fun v r => { r with tickMs := v }]

/-- How a configuration is read. -/
def reader : Reader Configuration := record.reader

/-- The configuration as a value. -/
def toValue (c : Configuration) : Value :=
  .object [
    ("device_url", .string c.deviceUrl),
    ("poll_interval_ms", .integer c.pollIntervalMs.toNat),
    ("request_timeout_ms", .integer c.requestTimeoutMs.toNat),
    ("upload_timeout_ms", .integer c.uploadTimeoutMs.toNat),
    ("slot_protocol", c.dialect.toValue),
    ("ota_countdown_secs", .integer c.countdown.toNat),
    ("ota_tick_ms", .integer c.tickMs.toNat)]

/-- The address without blanks around it and without slashes at its end; the default address if
nothing is left. -/
def sanitizeUrl (url : String) : String :=
  let url := Text.trimSlashes (Text.trim url)
  if url = "" then default.deviceUrl else url

/-- The configuration put in order. -/
def sanitize (c : Configuration) : Configuration where
  deviceUrl := sanitizeUrl c.deviceUrl
  pollIntervalMs := if c.pollIntervalMs = 0 then default.pollIntervalMs else c.pollIntervalMs
  requestTimeoutMs :=
    if c.requestTimeoutMs = 0 then default.requestTimeoutMs else c.requestTimeoutMs
  uploadTimeoutMs := if c.uploadTimeoutMs = 0 then default.uploadTimeoutMs else c.uploadTimeoutMs
  dialect := c.dialect
  countdown := if c.countdown = 0 then default.countdown else c.countdown
  tickMs := if c.tickMs = 0 then default.tickMs else c.tickMs

end Configuration

end FanControl
