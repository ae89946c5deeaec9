import FanControl.Clamp
import FanControl.Json.Printer
import FanControl.Json.Record
import FanControl.Schedule.Slot
import FanControl.Status
import FanControl.Text.Blank

/-!
# The two dialects of the slot requests

Firmware builds differ in how they name the requests about schedule slots, under which key a
request says which slot it means, and whether `active` is a number or a literal. A `Dialect` is
one of the two ways; a client is configured with the one that its device speaks.

Both dialects share the fields of a slot, and both read `active` either way. A body that is read
gives a slot with every field held within its range.

## Main definitions

* `Dialect.encodeSet`, `encodeLoaded`, `encodeErase`: the bodies about a slot;
* `Dialect.decodeSet`, `decodeLoaded`, `decodeSelector`: what they say.
-/

namespace FanControl

open Json

/-- How a device names the requests about slots. -/
inductive Dialect where
  | program
  | programSlot
deriving DecidableEq, Repr

/-- Why a body about a slot is refused. -/
inductive SlotError where
  /-- The fields of the slot cannot be read. -/
  | malformed (cause : Json.Error)
  /-- The body does not say which slot it is about. -/
  | missingSelector (key : String)
  /-- There is no such slot. -/
  | invalidId (cause : InputError)
deriving DecidableEq, Repr

/-- The wording of a refusal. -/
def SlotError.message : SlotError → String
  | malformed (.fault .ended) => "malformed slot body: the text ends too early"
  | malformed (.fault .malformed) => "malformed slot body: the text is not JSON"
  | malformed (.mismatch m) => "malformed slot body: " ++ m.message
  | missingSelector key => "slot body is missing the `" ++ key ++ "` selector"
  | invalidId cause => cause.message

/-- The name of a dialect that there is not, as it was understood. -/
structure UnknownDialect where
  name : String
deriving DecidableEq, Repr

/-- The wording for a dialect that there is not. -/
def UnknownDialect.message (e : UnknownDialect) : String :=
  "unknown slot protocol `" ++ e.name ++ "`"

namespace Dialect

/-- The name of a dialect in a configuration. -/
def name : Dialect → String
  | program => "program"
  | programSlot => "program_slot"

/-- The dialect with a name as an operator may write it, with blanks around it and in any case of
its letters. -/
def ofText (s : String) : Except UnknownDialect Dialect :=
  let name := (Text.trim s).map Char.toLower
  if name = program.name then .ok program
  else if name = programSlot.name then .ok programSlot
  else .error ⟨name⟩

/-- How the name of a dialect is read. -/
def reader : Reader Dialect :=
  .variant [(program.name, program), (programSlot.name, programSlot)]

/-- The name of a dialect as a value. -/
def toValue (d : Dialect) : Value := .string d.name

/-- The key under which a body says which slot it is about. -/
def selectorKey : Dialect → String
  | program => "id"
  | programSlot => "slot"

/-- Whether `active` is written as a number. -/
def activeIsNumber : Dialect → Bool
  | program => true
  | programSlot => false

/-- Where a slot is asked for, without saying which. -/
def loadPath : Dialect → String
  | program => "/get_program.json"
  | programSlot => "/program_slot_get.json"

/-- Where a slot is asked for. -/
def loadPathOf (d : Dialect) (id : SlotId) : String :=
  d.loadPath ++ "?" ++ d.selectorKey ++ "=" ++ toString id.number

/-- Where a slot is sent to. -/
def savePath : Dialect → String
  | program => "/set_program.json"
  | programSlot => "/program_slot_set.json"

/-- Where a slot is erased. -/
def erasePath : Dialect → String
  | program => "/erase_program.json"
  | programSlot => "/program_slot_erase.json"

/-! ### Writing -/

/-- `active` as a dialect writes it. -/
def encodeActive (d : Dialect) (active : Bool) : Value :=
  if d.activeIsNumber then .integer (if active then 1 else 0) else .boolean active

/-- The fields of a slot, in order of their keys. -/
def slotMembers (d : Dialect) (s : Slot) : List (String × Value) := [
  ("active", d.encodeActive s.active),
  ("h_end", .integer s.endHour.toNat),
  ("h_start", .integer s.startHour.toNat),
  ("m_end", .integer s.endMinute.toNat),
  ("m_start", .integer s.startMinute.toNat),
  ("t0", .integer s.outputAt0.toNat),
  ("t100", .integer s.outputAt100.toNat)]

/-- The body that a device answers with when it is asked for a slot. -/
def encodeLoaded (d : Dialect) (s : Slot) : Value := .object (d.slotMembers s)

/-- The body that sends a slot. -/
def encodeSet (d : Dialect) (s : Slot) : Value :=
  .object (Value.insert d.selectorKey (.integer s.id.number) (d.slotMembers s))

/-- The body that asks for a slot to be erased. -/
def encodeErase (d : Dialect) (id : SlotId) : Value :=
  .object [(d.selectorKey, .integer id.number)]

/-! ### Reading -/

end Dialect

/-- The fields of a slot as they stand in a body. -/
structure SlotFields where
  active : Flag
  startHour : Int64
  startMinute : Int64
  endHour : Int64
  endMinute : Int64
  outputAt0 : Int64
  outputAt100 : Int64
deriving DecidableEq, Repr

namespace SlotFields

/-- The fields of a slot, all of which have to be there. -/
def record : Record SlotFields where
  name := "SlotFields"
  blank := ⟨.literal false, 0, 0, 0, 0, 0, 0⟩
  fields := [
    .required "active" Flag.reader fun v r => { r with active := v },
    .required "h_start" .int64 fun v r => { r with startHour := v },
    .required "m_start" .int64 fun v r => { r with startMinute := v },
    .required "h_end" .int64 fun v r => { r with endHour := v },
    .required "m_end" .int64 fun v r => { r with endMinute := v },
    .required "t0" .int64 fun v r => { r with outputAt0 := v },
    .required "t100" .int64 fun v r => { r with outputAt100 := v }]

/-- How the fields of a slot are read. -/
def reader : Reader SlotFields := record.reader

/-- The slot that the fields describe, each held within its range. -/
def toSlot (f : SlotFields) (id : SlotId) : Slot :=
  Slot.sanitize {
    id
    active := f.active.isSet
    startHour := clampByte 255 f.startHour
    startMinute := clampByte 255 f.startMinute
    endHour := clampByte 255 f.endHour
    endMinute := clampByte 255 f.endMinute
    outputAt0 := clampByte 255 f.outputAt0
    outputAt100 := clampByte 255 f.outputAt100 }

end SlotFields

namespace Dialect

/-- The slot in the body that a device answers with. -/
def decodeLoaded (id : SlotId) (body : Bytes) : Except SlotError Slot :=
  match SlotFields.reader.ofBytes body with
  | .ok fields => .ok (fields.toSlot id)
  | .error cause => .error (.malformed cause)

/-- Which slot a body is about. -/
def decodeSelector (d : Dialect) (body : Value) : Except SlotError SlotId :=
  match (body.get? d.selectorKey).bind Value.int64? with
  | none => .error (.missingSelector d.selectorKey)
  | some n => (SlotId.ofNumber n).mapError .invalidId

/-- The slot that a body sends. -/
def decodeSet (d : Dialect) (body : Value) : Except SlotError Slot := do
  let id ← d.decodeSelector body
  match SlotFields.reader.value body with
  | .ok fields => return fields.toSlot id
  | .error cause => .error (.malformed cause)

end Dialect

end FanControl
