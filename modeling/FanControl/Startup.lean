import FanControl.Configuration
import FanControl.Firmware.Image
import FanControl.Text.Digits

/-!
# What a run starts from

A run may be given a configuration file, variables that override it, and a firmware image. A
configuration file that is not there counts as one that says nothing; any other trouble with a
file is an error, and so is a configuration that cannot be read. An override that makes no sense
is passed over.
-/

namespace FanControl

/-- What is found where a file should be. -/
inductive FileContent where
  | absent
  /-- There is something, but it cannot be read as a file. -/
  | unreadable
  | bytes (content : Bytes)
deriving DecidableEq, Repr

/-- Why a run cannot start. -/
inductive StartupError where
  | unreadableConfiguration
  | invalidConfiguration (cause : Json.Error)
  | unreadableFirmware
deriving DecidableEq, Repr

/-- The wording of an error, up to the name of the file. -/
def StartupError.context : StartupError → String
  | unreadableConfiguration => "failed to read"
  | invalidConfiguration _ => "invalid session config in"
  | unreadableFirmware => "failed to read firmware image"

/-- The configuration that a run starts from. No file is named, or the named one is read. -/
def Configuration.ofFile : Option FileContent → Except StartupError Configuration
  | none => .ok .default
  | some .absent => .ok .default
  | some .unreadable => .error .unreadableConfiguration
  | some (.bytes content) => (reader.ofBytes content).mapError .invalidConfiguration

/-- The image in a file. -/
def FirmwareImage.ofFile (name : String) : FileContent → Except StartupError FirmwareImage
  | .bytes content => .ok ⟨name, content⟩
  | _ => .error .unreadableFirmware

namespace Configuration

/-- The configuration with the variables that are set in place of its fields, put in order. -/
def override (c : Configuration) (lookup : String → Option String) : Configuration :=
  let c := match lookup "DEVICE_URL" with
    | some url => { c with deviceUrl := url }
    | none => c
  let c := match (lookup "POLL_INTERVAL_MS").bind Text.uint64? with
    | some ms => { c with pollIntervalMs := ms }
    | none => c
  let c := match (lookup "SLOT_PROTOCOL").bind fun name => (Dialect.ofText name).toOption with
    | some dialect => { c with dialect }
    | none => c
  c.sanitize

end Configuration

end FanControl
