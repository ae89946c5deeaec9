import FanControl.Configuration
import FanControl.Json.Spelling
import Mathlib.Data.Finset.Dedup
import Mathlib.Data.Fintype.Defs

/-!
# Parts of a configuration

A configuration file may name some of the seven parts of a configuration and leave out the others.
It may name them in any order and be spelled in any way, and there may be members in it that are
about something else. `Configuration.Lists` says which parts the members of a file name, with the
values that a configuration has for them; `Configuration.only` is what the file should amount to.

## Main definitions

* `Part.key`, `Part.value`: how a part stands in a file;
* `Configuration.only`: some parts of a configuration, and the defaults of the others;
* `Configuration.Lists`: members that name some parts of a configuration.
-/

namespace FanControl.Configuration

open Json

/-- The parts of a configuration. -/
inductive Part where
  | deviceUrl
  | pollIntervalMs
  | requestTimeoutMs
  | uploadTimeoutMs
  | dialect
  | countdown
  | tickMs
deriving DecidableEq, Repr

namespace Part

/-- All parts, in the order in which they are printed. -/
def all : List Part :=
  [deviceUrl, pollIntervalMs, requestTimeoutMs, uploadTimeoutMs, dialect, countdown, tickMs]

/-- The key of a part. -/
def key : Part → String
  | deviceUrl => "device_url"
  | pollIntervalMs => "poll_interval_ms"
  | requestTimeoutMs => "request_timeout_ms"
  | uploadTimeoutMs => "upload_timeout_ms"
  | dialect => "slot_protocol"
  | countdown => "ota_countdown_secs"
  | tickMs => "ota_tick_ms"

/-- The value that is printed for a part of a configuration. -/
def value (c : Configuration) : Part → Value
  | deviceUrl => .string c.deviceUrl
  | pollIntervalMs => .integer c.pollIntervalMs.toNat
  | requestTimeoutMs => .integer c.requestTimeoutMs.toNat
  | uploadTimeoutMs => .integer c.uploadTimeoutMs.toNat
  | dialect => c.dialect.toValue
  | countdown => .integer c.countdown.toNat
  | tickMs => .integer c.tickMs.toNat

/-- The member that is printed for a part of a configuration. -/
def member (c : Configuration) (p : Part) : String × Value := (p.key, p.value c)

instance : Fintype Part where
  elems := all.toFinset
  complete p := by cases p <;> decide

end Part

/-- A configuration is printed part by part. -/
theorem toValue_eq (c : Configuration) : c.toValue = .object (Part.all.map (Part.member c)) := rfl

/-- The default configuration with some parts of `c` in place of its own. -/
def only (c : Configuration) (parts : Finset Part) : Configuration where
  deviceUrl := if .deviceUrl ∈ parts then c.deviceUrl else default.deviceUrl
  pollIntervalMs := if .pollIntervalMs ∈ parts then c.pollIntervalMs else default.pollIntervalMs
  requestTimeoutMs :=
    if .requestTimeoutMs ∈ parts then c.requestTimeoutMs else default.requestTimeoutMs
  uploadTimeoutMs :=
    if .uploadTimeoutMs ∈ parts then c.uploadTimeoutMs else default.uploadTimeoutMs
  dialect := if .dialect ∈ parts then c.dialect else default.dialect
  countdown := if .countdown ∈ parts then c.countdown else default.countdown
  tickMs := if .tickMs ∈ parts then c.tickMs else default.tickMs

/-- The members name the parts in a list, in this order, each with the value that is printed for
`c`. Between them they hold what they like under other keys. -/
inductive Lists (c : Configuration) : List MemberSpelling → List Part → Prop where
  | nil : Lists c [] []
  /-- A part. Its key may be spelled in any way; its value is spelled as it is printed. -/
  | part {key : Spaced StringSpelling} {value : Spaced Spelling} (p : Part)
      (hkey : key.it.text.decode = .ok p.key)
      (hvalue : String.ofList value.it.chars = (p.value c).render)
      {members : List MemberSpelling} {parts : List Part} (hrest : Lists c members parts) :
      Lists c ((key, value) :: members) (p :: parts)
  /-- Any value under a key that no part has. -/
  | other {key : Spaced StringSpelling} (value : Spaced Spelling) {name : String}
      (hkey : key.it.text.decode = .ok name) (hother : ∀ p : Part, p.key ≠ name)
      {members : List MemberSpelling} {parts : List Part} (hrest : Lists c members parts) :
      Lists c ((key, value) :: members) parts

end FanControl.Configuration
