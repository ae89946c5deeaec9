import FanControl.Text.Blank
import FanControl.Text.Bytes

/-!
# Numbers at the beginning of a text

What an operator types into a field counts for the whole number that it begins with. A `Numeral`
says how a text is taken apart for that: blanks, at most one sign, digits, and a rest. Each of the
parts is as long as it can be, so there is one way to do it. There may be any number of digits, and
the value is what they say.

`scanInt?` looks for the number among the bytes of the text and counts it up in a machine word. Some
of its steps are not possible everywhere: a text can be cut only between two characters, a digit
must be one, and a machine word has no opposite if it is the least. Each of them is checked where it
is made, so that `none` means that the scan has broken off.

## Main definitions

* `Numeral`, `Numeral.value`: the number that a text begins with, however large it is;
* `scanInt?`: the number in a machine word, with everything checked that could go wrong.
-/

namespace FanControl.Text

/-! ### Numerals -/

/-- The sign of a number. -/
inductive Sign where
  | plus
  | minus
deriving DecidableEq, Repr

namespace Sign

/-- How a sign is written. -/
def char : Sign → Char
  | plus => '+'
  | minus => '-'

/-- What a sign makes of a number. -/
def factor : Sign → Int
  | plus => 1
  | minus => -1

/-- How a sign is written that may be left out. -/
def chars? (sign : Option Sign) : List Char := (sign.map char).toList

end Sign

/-- **How a text begins with a number**: with blanks, at most one sign, and digits. No part of the
text could have gone on. -/
structure Numeral (s : String) where
  blanks : List Char
  sign : Option Sign
  digits : List Char
  rest : List Char
  parts : s.toList = blanks ++ (Sign.chars? sign ++ (digits ++ rest))
  blank : ∀ c ∈ blanks, isBlank c = true
  begun : ∀ c ∈ (Sign.chars? sign ++ (digits ++ rest)).head?, isBlank c = false
  /-- A sign is left out only if there is none. -/
  unsigned : sign = none → ∀ c ∈ (digits ++ rest).head?, c ≠ '+' ∧ c ≠ '-'
  digit : ∀ c ∈ digits, c.isDigit = true
  ended : ∀ c ∈ rest.head?, c.isDigit = false

namespace Numeral

variable {s : String}

/-- What the sign makes of the number. -/
def factor (n : Numeral s) : Int := n.sign.elim 1 Sign.factor

/-- What the digits stand for. Without digits it is zero. -/
def magnitude (n : Numeral s) : Nat := Nat.ofDigitChars 10 n.digits 0

/-- The number that the text begins with. -/
def value (n : Numeral s) : Int := n.factor * n.magnitude

end Numeral

/-! ### Machine words -/

/-- The nearest number of 64 bits. -/
def saturate (i : Int) : Int64 :=
  Int64.ofInt (max (-0x8000000000000000) (min 0x7FFFFFFFFFFFFFFF i))

/-- The opposite of a number, if that can be held. -/
def negate? (i : Int64) : Option Int64 :=
  if i.toInt = -0x8000000000000000 then none else some (-i)

/-- Appends a digit to a magnitude, if the byte is not below the digits. -/
def pushDigit? (magnitude : Int64) (b : UInt8) : Option Int64 :=
  if 48 ≤ b.toNat then
    some (saturate ((saturate (magnitude.toInt * 10)).toInt + (b.toNat - 48 : Nat)))
  else none

/-! ### Cuts -/

/-- Whether some bytes can be cut at a place: at an end, or where a character begins. -/
def isBoundary (bs : Bytes) (i : Nat) : Bool :=
  match bs.drop i with
  | [] => decide (i ≤ bs.length)
  | b :: _ => i == 0 || !decide (0x80 ≤ b.toNat ∧ b.toNat < 0xC0)

/-- The bytes from a place on. -/
def bytesFrom? (bs : Bytes) (i : Nat) : Option Bytes :=
  if isBoundary bs i then some (bs.drop i) else none

/-- The bytes up to a place. -/
def bytesTo? (bs : Bytes) (i : Nat) : Option Bytes :=
  if isBoundary bs i then some (bs.take i) else none

/-! ### The scan -/

/-- Whether some bytes begin with a minus sign, and the bytes without their sign. -/
def signedBytes? (bs : Bytes) : Option (Bool × Bytes) :=
  match bs.head? with
  | some 0x2D => (bytesFrom? bs 1).map (true, ·)
  | some 0x2B => (bytesFrom? bs 1).map (false, ·)
  | _ => some (false, bs)

/-- The number whose digits some bytes begin with. -/
def countDigits? (negative : Bool) (bs : Bytes) : Option Int64 := do
  let digits ← bytesTo? bs (bs.findIdx fun b => (digit? b).isNone)
  let magnitude ← digits.foldlM pushDigit? 0
  if negative then negate? magnitude else some magnitude

/-- The number that a text begins with, found among its bytes and counted up in a machine word. -/
def scanInt? (s : String) : Option Int64 := do
  let (negative, bs) ← signedBytes? (bytes (trimStart s))
  countDigits? negative bs

end FanControl.Text
