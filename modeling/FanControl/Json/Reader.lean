import FanControl.Json.Document

/-!
# Readers

A `Reader` says how a value of a type of the domain is read from JSON. It has two sides, because
some bodies are read straight from their text and others from a value that has been read before.
The two differ in what they forgive: a text may hold what a value cannot, such as an ill-formed
string under a key that nobody wants, and a value holds each key only once.

The readers of single fields look at the `Plain` form of what is there and so treat both sides
alike; `FanControl.Json.Record` builds the readers of whole bodies.
-/

namespace FanControl.Json

open FloatingPoint

/-- How a value of type `α` is read. -/
structure Reader (α : Type) where
  /-- From a node of a document, with containers nested at most so deep. -/
  node : (depth : Nat) → Node → Except Error α
  /-- From a value. -/
  value : Value → Except Error α

/-- Turns a fault of the text into the error of a body. -/
def liftFault {α : Type} : Except Fault α → Except Error α
  | .ok a => .ok a
  | .error fault => .error (.fault fault)

namespace Reader

variable {α β : Type}

/-- Reads a whole body. Nothing but blanks may follow the value. -/
def ofBytes (r : Reader α) (bs : Bytes) : Except Error α := do
  let document := Document.ofBytes bs
  let a ← r.node depthLimit document.root
  if document.trailing then .error (.fault .malformed) else return a

/-- Changes what has been read. -/
def map (f : α → β) (r : Reader α) : Reader β where
  node depth n := f <$> r.node depth n
  value v := f <$> r.value v

/-- Reads something that is no container. -/
def scalar (f : Plain → Except Mismatch α) : Reader α where
  node _ n := do
    let plain ← liftFault n.plain
    (f plain).mapError .mismatch
  value v := (f v.plain).mapError .mismatch

/-- A truth value or nothing else. -/
def boolean : Reader Bool := scalar fun
  | .boolean b => .ok b
  | found => .error (.wrongType found "a boolean")

/-- An integer of a range with a name. -/
def integer (name : String) (low high : Int) : Reader Int := scalar fun
  | .number (.integer i) =>
    if low ≤ i ∧ i ≤ high then .ok i else .error (.wrongValue (.number (.integer i)) name)
  | found => .error (.wrongType found name)

/-- A signed integer of 64 bits. -/
def int64 : Reader Int64 := (integer "i64" (-0x8000000000000000) 0x7FFFFFFFFFFFFFFF).map Int64.ofInt

/-- A signed integer of 32 bits. -/
def int32 : Reader Int32 := (integer "i32" (-0x80000000) 0x7FFFFFFF).map Int32.ofInt

/-- An unsigned integer of 64 bits. -/
def uint64 : Reader UInt64 := (integer "u64" 0 0xFFFFFFFFFFFFFFFF).map fun i => UInt64.ofNat i.toNat

/-- An unsigned integer of 32 bits. -/
def uint32 : Reader UInt32 := (integer "u32" 0 0xFFFFFFFF).map fun i => UInt32.ofNat i.toNat

/-- A number rounded to single precision. One that is too large becomes infinite. -/
def single : Reader Binary32 := scalar fun
  | .number (.integer i) => .ok (.encode (.ofInt .single i))
  | .number (.double x) => .ok (.encode (x.convert .single))
  | .number (.single x) => .ok x
  | found => .error (.wrongType found "f32")

/-- A text. -/
def string : Reader String := scalar fun
  | .string s => .ok s
  | found => .error (.wrongType found "a string")

/-- Nothing, written as `null`. -/
def unit : Reader Unit := scalar fun
  | .null => .ok ()
  | found => .error (.wrongType found "unit")

/-- What may be absent, or `null` in its place. -/
def optional (r : Reader α) : Reader (Option α) where
  node depth
    | .null => .ok none
    | n => some <$> r.node depth n
  value
    | .null => .ok none
    | v => some <$> r.value v

/-- The first alternative that accepts a value, which is read as a whole before any of them looks
at it. -/
def firstOf (name : String) (alternatives : List (Value → Option α)) : Reader α where
  node depth n := do
    let v ← liftFault (n.toValue? depth)
    choose v
  value := choose
where
  /-- Tries the alternatives in order. -/
  choose (v : Value) : Except Error α :=
    match alternatives.findSome? (· v) with
    | some a => .ok a
    | none => .error (.mismatch (.noAlternative name))

/-- One of some named alternatives: its name, or an object with the name as its only key and
`null` as the value. A name that is unknown is refused before anything that follows it, and what
stands in place of the key has to be a string. -/
def variant (known : List (String × α)) : Reader α where
  node depth
    | .string t => do
      let name ← liftFault t.decode
      choose name
    | .object members ending =>
      match depth with
      | 0 => .error (.fault .malformed)
      | depth + 1 =>
        match members with
        | [] =>
          match ending with
          | .unclosed fault => .error (.fault fault)
          | _ => .error (.fault .malformed)
        | (key, n) :: more => do
          let name ← liftFault key.decode
          let a ← choose name
          unit.node depth n
          match more, ending with
          | [], .closed => return a
          | [], .unclosed fault | [], .stopped fault => .error (.fault fault)
          | _, _ => .error (.fault .malformed)
    | .keyless first =>
      match depth with
      | 0 => .error (.fault .malformed)
      | _ + 1 => do
        let found ← liftFault first.plain
        .error (.mismatch (.wrongType found "variant identifier"))
    | .broken kept _ => .error (.fault kept)
    | _ => .error (.fault .malformed)
  value
    | .string name => choose name
    | .object [(name, v)] => do
      let a ← choose name
      unit.value v
      return a
    | .object _ => .error (.mismatch (.wrongValue .map "map with a single key"))
    | v => .error (.mismatch (.wrongType v.plain "string or map"))
where
  /-- The alternative with a name. -/
  choose (name : String) : Except Error α :=
    match known.lookup name with
    | some a => .ok a
    | none => .error (.mismatch (.unknownVariant name (known.map (·.1))))

end Reader

end FanControl.Json
