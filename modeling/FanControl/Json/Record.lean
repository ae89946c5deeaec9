import FanControl.Json.Reader

/-!
# Records

A body of named fields is read by a `Record`: it starts from a blank value and lets each field
that is present fill in its part. Fields may stand in an object, under their keys and in any
order, or in an array, in the order of the record. Keys that no field has are passed by.

A required field that is absent, and a key that comes twice, are errors. What a field that is not
required leaves blank stays as the blank value has it.
-/

namespace FanControl.Json

/-- A field of a record with values in `α`. -/
structure Field (α : Type) where
  key : String
  /-- Whether its absence is an error. -/
  needed : Bool
  /-- Reads the field, as the change that it makes. -/
  fill : Reader (α → α)

/-- A body of named fields. -/
structure Record (α : Type) where
  name : String
  fields : List (Field α)
  blank : α

namespace Record

variable {α : Type} (r : Record α)

/-- What a record calls itself where it is expected. -/
def expected : String := "struct " ++ r.name

/-- What a record calls itself where an array of its fields is expected. -/
def expectedLength : String :=
  let n := r.fields.length
  r.expected ++ " with " ++ toString n ++ (if n = 1 then " element" else " elements")

/-- The field with a key. -/
def field? (key : String) : Option (Field α) := r.fields.find? (·.key == key)

/-- The finished record, given the keys that were present. Of the required fields that are absent
the first is named. -/
def finish (present : List String) (a : α) : Except Error α :=
  match r.fields.find? fun f => f.needed && !present.contains f.key with
  | some f => .error (.mismatch (.missingField f.key))
  | none => .ok a

/-- Reads members of a document after those whose keys are `present`. A key is looked at before
the value that it belongs to. -/
def memberNodes (depth : Nat) (present : List String) (a : α) :
    List (StringText × Node) → Ending → Except Error α
  | [], ending => do
    liftFault ending.check
    r.finish present a
  | (key, n) :: rest, ending => do
    let key ← liftFault key.decode
    match r.field? key with
    | none =>
      liftFault n.skip
      memberNodes depth present a rest ending
    | some f =>
      if present.contains key then .error (.mismatch (.duplicateField key))
      else
        let fill ← f.fill.node depth n
        memberNodes depth (key :: present) (fill a) rest ending

/-- Reads items of a document into the fields that are left; `index` fields have been read. An
item too many is a fault of the text. -/
def itemNodes (depth : Nat) (index : Nat) (a : α) :
    List (Field α) → List Node → Ending → Except Error α
  | [], [], .dangling _ => .error (.fault .malformed)
  | [], [], ending => do
    liftFault ending.check
    return a
  | [], _ :: _, _ => .error (.fault .malformed)
  | f :: fields, [], ending => do
    liftFault ending.check
    if f.needed then .error (.mismatch (.wrongLength index r.expectedLength))
    else itemNodes depth (index + 1) a fields [] ending
  | f :: fields, n :: rest, ending => do
    let fill ← f.fill.node depth n
    itemNodes depth (index + 1) (fill a) fields rest ending

/-- Reads the members of a value. -/
def memberValues (present : List String) (a : α) : List (String × Value) → Except Error α
  | [] => r.finish present a
  | (key, v) :: rest =>
    match r.field? key with
    | none => memberValues present a rest
    | some f =>
      if present.contains key then .error (.mismatch (.duplicateField key))
      else do
        let fill ← f.fill.value v
        memberValues (key :: present) (fill a) rest

/-- Reads the items of a value of `length` items into the fields that are left. -/
def itemValues (length : Nat) (index : Nat) (a : α) :
    List (Field α) → List Value → Except Error α
  | [], [] => .ok a
  | [], _ :: _ => .error (.mismatch (.wrongLength length "fewer elements in array"))
  | f :: fields, [] =>
    if f.needed then .error (.mismatch (.wrongLength index r.expectedLength))
    else itemValues length (index + 1) a fields []
  | f :: fields, v :: rest => do
    let fill ← f.fill.value v
    itemValues length (index + 1) (fill a) fields rest

/-- The reader of a record. -/
def reader : Reader α where
  node depth
    | .array items ending =>
      match depth with
      | 0 => .error (.fault .malformed)
      | depth + 1 => r.itemNodes depth 0 r.blank r.fields items ending
    | .object members ending =>
      match depth with
      | 0 => .error (.fault .malformed)
      | depth + 1 => r.memberNodes depth [] r.blank members ending
    | .keyless _ => .error (.fault .malformed)
    | n => do
      let found ← liftFault n.plain
      .error (.mismatch (.wrongType found r.expected))
  value
    | .array items => r.itemValues items.length 0 r.blank r.fields items
    | .object members => r.memberValues [] r.blank members
    | v => .error (.mismatch (.wrongType v.plain r.expected))

end Record

namespace Field

variable {α β : Type}

/-- A field that has to be present. -/
def required (key : String) (r : Reader β) (set : β → α → α) : Field α :=
  ⟨key, true, r.map set⟩

/-- A field that keeps its blank value when it is absent. -/
def withDefault (key : String) (r : Reader β) (set : β → α → α) : Field α :=
  ⟨key, false, r.map set⟩

/-- A field that may be absent or `null`. -/
def optional (key : String) (r : Reader β) (set : Option β → α → α) : Field α :=
  ⟨key, false, r.optional.map set⟩

end Field

end FanControl.Json
