/-!
# Bytes

Bodies, images and encoded texts are lists of bytes. A text and its UTF-8 encoding are one thing
in two forms: `ofBytes?` reads exactly the lists that `bytes` produces.
-/

namespace FanControl

/-- A run of bytes. -/
abbrev Bytes := List UInt8

namespace Text

/-- The UTF-8 encoding of a text. -/
def bytes (s : String) : Bytes := s.toUTF8.data.toList

/-- The text that the bytes encode, if they encode one. -/
def ofBytes? (bs : Bytes) : Option String := String.fromUTF8? ⟨bs.toArray⟩

/-- The digits of a number below sixteen, in lower case. -/
def hexDigit (n : Nat) : Char := Nat.digitChar n

/-- A byte as two hexadecimal digits. -/
def hexByte (b : UInt8) : List Char := [hexDigit (b.toNat / 16), hexDigit (b.toNat % 16)]

/-- What a hexadecimal digit stands for, in either case. -/
def hexValue? (b : UInt8) : Option Nat :=
  let n := b.toNat
  if 48 ≤ n ∧ n ≤ 57 then some (n - 48)
  else if 97 ≤ n ∧ n ≤ 102 then some (n - 87)
  else if 65 ≤ n ∧ n ≤ 70 then some (n - 55)
  else none

/-- What a decimal digit stands for. -/
def digit? (b : UInt8) : Option Nat :=
  let n := b.toNat
  if 48 ≤ n ∧ n ≤ 57 then some (n - 48) else none

/-- Bytes as lower-case hexadecimal text. -/
def hex (bs : Bytes) : String := String.ofList (bs.flatMap hexByte)

end Text

end FanControl
