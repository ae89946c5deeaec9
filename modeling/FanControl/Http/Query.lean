import FanControl.Text.Bytes

/-!
# Queries

A query is a sequence of fields with ampersands between them, each a key and a value with an
equals sign between. In both a plus sign stands for a space, and a percent sign with two
hexadecimal digits for a byte. Of equal keys the last one counts.
-/

namespace FanControl.Http

/-- The pieces of a sequence between its separators. -/
def splitOn (separator : UInt8) : Bytes → List Bytes
  | [] => [[]]
  | b :: rest =>
    match splitOn separator rest with
    | [] => [[b]]
    | piece :: pieces =>
      if b = separator then [] :: piece :: pieces else (b :: piece) :: pieces

/-- What a key or a value stands for. A percent sign without two digits stands for itself. -/
def decodeComponent : Bytes → Bytes
  | 0x25 :: p :: q :: rest =>
    match Text.hexValue? p, Text.hexValue? q with
    | some p, some q => UInt8.ofNat (p * 16 + q) :: decodeComponent rest
    | _, _ => 0x25 :: decodeComponent (p :: q :: rest)
  | b :: rest => (if b = 0x2B then 0x20 else b) :: decodeComponent rest
  | [] => []

/-- The text of a component; one that is not well-formed is cited by the replacement character. -/
def componentText (bs : Bytes) : String := (Text.ofBytes? (decodeComponent bs)).getD "\uFFFD"

/-- The fields of a query, in order. -/
def queryFields (query : String) : List (String × String) :=
  ((splitOn 0x26 (Text.bytes query)).filter fun field => !field.isEmpty).map fun field =>
    let (key, value) := field.span (· ≠ 0x3D)
    (componentText key, componentText (value.drop 1))

/-- The value of a key in a query. -/
def queryValue? (key : String) (query : String) : Option String :=
  (queryFields query).reverse.lookup key

end FanControl.Http
