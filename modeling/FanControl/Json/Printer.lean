import FanControl.Decimal.Text
import FanControl.Json.Value

/-!
# Compact JSON text

`Value.render` writes a value without a blank. Members stand in the order they are held in; a
number that is not finite is written as `null`; in a string only quotes, backslashes and the
controls below the space are escaped.
-/

namespace FanControl.Json

/-- One character between the quotes of a string. -/
def escapeChar (c : Char) : List Char :=
  if c = '"' then ['\\', '"']
  else if c = '\\' then ['\\', '\\']
  else if c.toNat = 8 then ['\\', 'b']
  else if c = '\t' then ['\\', 't']
  else if c = '\n' then ['\\', 'n']
  else if c.toNat = 12 then ['\\', 'f']
  else if c = '\r' then ['\\', 'r']
  else if c.toNat < 32 then
    ['\\', 'u', '0', '0', Nat.digitChar (c.toNat / 16), Nat.digitChar (c.toNat % 16)]
  else [c]

/-- A string between its quotes. -/
def quoteString (s : String) : List Char := '"' :: (s.toList.flatMap escapeChar ++ ['"'])

/-- A whole number in decimal digits. -/
def integerChars (i : Int) : List Char :=
  if i < 0 then '-' :: Nat.toDigits 10 i.natAbs else Nat.toDigits 10 i.natAbs

/-- A number, or `null` in place of one that is not finite. -/
def Number.chars : Number → List Char
  | .integer i => integerChars i
  | .double x => (Decimal.Style.double.writeFinite? x).getD ['n', 'u', 'l', 'l']
  | .single x => (Decimal.Style.single.writeFinite? x.decode).getD ['n', 'u', 'l', 'l']

namespace Value

mutual

/-- The characters of a value. -/
def chars : Value → List Char
  | null => ['n', 'u', 'l', 'l']
  | boolean b => if b then ['t', 'r', 'u', 'e'] else ['f', 'a', 'l', 's', 'e']
  | number n => n.chars
  | string s => quoteString s
  | array items => '[' :: (itemChars items ++ [']'])
  | object members => '\x7b' :: (memberChars members ++ ['\x7d'])

/-- The items of an array with commas between them. -/
def itemChars : List Value → List Char
  | [] => []
  | [v] => v.chars
  | v :: w :: rest => v.chars ++ ',' :: itemChars (w :: rest)

/-- The members of an object with commas between them. -/
def memberChars : List (String × Value) → List Char
  | [] => []
  | [(k, v)] => quoteString k ++ ':' :: v.chars
  | (k, v) :: m :: rest => quoteString k ++ ':' :: (v.chars ++ ',' :: memberChars (m :: rest))

end

/-- The compact text of a value. -/
def render (v : Value) : String := String.ofList v.chars

end Value

end FanControl.Json
