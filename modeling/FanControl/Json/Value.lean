import FanControl.FloatingPoint.Binary32

/-!
# JSON values

The values that bodies are made of. An object is a list of members; those that come from reading
a text are in increasing order of their keys and hold each key once, while the printer keeps
whatever order it is given.

A reader of a single field does not look inside arrays and objects. What it does look at is the
`Plain` form of a value, with a mere mark in place of a container.
-/

namespace FanControl.Json

open FloatingPoint

/-- A number. Reading a text gives integers within 64 bits and double-precision numbers;
single-precision numbers are only written. -/
inductive Number where
  | integer (i : Int)
  | double (x : Datum .double)
  | single (x : Binary32)
deriving DecidableEq, Repr

/-- A JSON value. -/
inductive Value where
  | null
  | boolean (b : Bool)
  | number (n : Number)
  | string (s : String)
  | array (items : List Value)
  | object (members : List (String × Value))
deriving Repr

/-- A value with its containers closed. -/
inductive Plain where
  | null
  | boolean (b : Bool)
  | number (n : Number)
  | string (s : String)
  | sequence
  | map
deriving DecidableEq, Repr

namespace Value

/-- A whole number. -/
def integer (i : Int) : Value := .number (.integer i)

/-- The value with its containers closed. -/
def plain : Value → Plain
  | null => .null
  | boolean b => .boolean b
  | number n => .number n
  | string s => .string s
  | array _ => .sequence
  | object _ => .map

/-- The value of a key among members. -/
def lookup? (key : String) (members : List (String × Value)) : Option Value :=
  (members.find? (·.1 == key)).map (·.2)

/-- The member of an object; other values have none. -/
def get? (key : String) : Value → Option Value
  | object members => lookup? key members
  | _ => none

/-- Puts a member at its place among members in order of keys, instead of one with its key. -/
def insert (key : String) (value : Value) : List (String × Value) → List (String × Value)
  | [] => [(key, value)]
  | (k, v) :: rest =>
    if key < k then (key, value) :: (k, v) :: rest
    else if key = k then (key, value) :: rest
    else (k, v) :: insert key value rest

/-- The whole number that a value is, if it fits in 64 bits with a sign. -/
def int64? : Value → Option Int64
  | number (.integer i) =>
    if -0x8000000000000000 ≤ i ∧ i < 0x8000000000000000 then some (Int64.ofInt i) else none
  | _ => none

end Value

end FanControl.Json
