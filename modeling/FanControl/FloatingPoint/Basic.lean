/-!
# Binary floating point in exact arithmetic

A finite floating-point number is kept as a sign and a whole number of **quanta**, the quantum of
a format being its least positive value. Every format then embeds in the integers, and each
operation is one exact computation on natural numbers followed by one rounding: the nearest
representable number, a tie going to the even significand.

The definitions are parametric in the `Format`; `Format.single` and `Format.double` are the two
that device readings and JSON numbers need. Bit patterns are the business of
`FanControl.FloatingPoint.Binary32`.
-/

namespace FanControl.FloatingPoint

/-- The widths of the two fields that an interchange format stores beside the sign. -/
structure Format where
  /-- Stored bits of the significand. -/
  fractionBits : Nat
  /-- Bits of the biased exponent. -/
  exponentBits : Nat
deriving DecidableEq, Repr

namespace Format

/-- Thirty-two bits: eight of exponent, twenty-three of fraction. -/
def single : Format := ⟨23, 8⟩

/-- Sixty-four bits: eleven of exponent, fifty-two of fraction. -/
def double : Format := ⟨52, 11⟩

/-- Significant bits of a normal number, the leading one included. -/
def precision (F : Format) : Nat := F.fractionBits + 1

/-- What is added to an exponent before it is stored. -/
def bias (F : Format) : Nat := Nat.pow 2 (F.exponentBits - 1) - 1

/-- One quantum is `2 ^ (-scale)`. -/
def scale (F : Format) : Nat := F.bias + F.fractionBits - 1

/-- The first power of two past the largest number is `2 ^ top` quanta. -/
def top (F : Format) : Nat := F.bias + 1 + F.scale

end Format

/-- A number of the format `F`, a zero with its sign, an infinity, or no number at all. -/
inductive Datum (F : Format) where
  /-- Not a number. -/
  | nan
  /-- One of the two infinities. -/
  | infinite (negative : Bool)
  /-- The number of `quanta` times the quantum, with a sign that a zero keeps as well. -/
  | finite (negative : Bool) (quanta : Nat)
deriving DecidableEq, Repr

/-! ### Rounding -/

/-- The number of binary digits of `n`; zero has none. -/
def bitLength (n : Nat) : Nat := if n = 0 then 0 else n.log2 + 1

/-- The whole number nearest to `num / den`, a tie going to the even one. -/
def roundHalfEven (num den : Nat) : Nat :=
  let quotient := num / den
  let remainder := num % den
  if den < 2 * remainder then quotient + 1
  else if 2 * remainder = den then quotient + quotient % 2
  else quotient

/-- The whole number nearest to `num / den` among those of at most `precision` significant bits. -/
def roundToPrecision (precision num den : Nat) : Nat :=
  let unit := Nat.pow 2 (bitLength (num / den) - precision)
  roundHalfEven num (den * unit) * unit

namespace Datum

variable {F : Format}

/-- The datum nearest to `num / den` quanta. Whatever rounds to `2 ^ top` quanta or more is
infinite. -/
def ofQuotient (F : Format) (negative : Bool) (num den : Nat) : Datum F :=
  let quanta := roundToPrecision F.precision num den
  if Nat.pow 2 F.top ≤ quanta then .infinite negative else .finite negative quanta

/-- The datum nearest to a whole number. -/
def ofInt (F : Format) (i : Int) : Datum F :=
  ofQuotient F (decide (i < 0)) (i.natAbs * Nat.pow 2 F.scale) 1

/-- The same number in another format, rounded if it has to be. -/
def convert (G : Format) : Datum F → Datum G
  | .nan => .nan
  | .infinite negative => .infinite negative
  | .finite negative quanta => ofQuotient G negative (quanta * Nat.pow 2 G.scale) (Nat.pow 2 F.scale)

/-! ### Arithmetic -/

/-- The number in quanta, without the sign of a zero. -/
def signed (negative : Bool) (quanta : Nat) : Int := if negative then -quanta else quanta

/-- The opposite number. -/
def neg : Datum F → Datum F
  | .nan => .nan
  | .infinite negative => .infinite (!negative)
  | .finite negative quanta => .finite (!negative) quanta

/-- The rounded sum. An exact zero is positive unless both terms are negative. -/
def add : Datum F → Datum F → Datum F
  | .nan, _ | _, .nan => .nan
  | .infinite a, .infinite b => if a = b then .infinite a else .nan
  | .infinite a, .finite _ _ => .infinite a
  | .finite _ _, .infinite b => .infinite b
  | .finite a m, .finite b n =>
    let total := signed a m + signed b n
    if total = 0 then .finite (a && b) 0
    else ofQuotient F (decide (total < 0)) total.natAbs 1

/-- The rounded difference. -/
def sub (x y : Datum F) : Datum F := x.add y.neg

/-- The rounded product. -/
def mul : Datum F → Datum F → Datum F
  | .nan, _ | _, .nan => .nan
  | .infinite a, .infinite b => .infinite (a != b)
  | .infinite a, .finite b n => if n = 0 then .nan else .infinite (a != b)
  | .finite a m, .infinite b => if m = 0 then .nan else .infinite (a != b)
  | .finite a m, .finite b n => ofQuotient F (a != b) (m * n) (Nat.pow 2 F.scale)

/-- The rounded quotient. -/
def div : Datum F → Datum F → Datum F
  | .nan, _ | _, .nan => .nan
  | .infinite _, .infinite _ => .nan
  | .infinite a, .finite b _ => .infinite (a != b)
  | .finite a _, .infinite b => .finite (a != b) 0
  | .finite a m, .finite b n =>
    if n = 0 then if m = 0 then .nan else .infinite (a != b)
    else ofQuotient F (a != b) (m * Nat.pow 2 F.scale) n

/-! ### Order and truncation -/

/-- Where a datum lies on the line of quanta, both infinities included; `nan` lies nowhere. -/
def position? : Datum F → Option Int
  | .nan => none
  | .infinite negative => some (signed negative (Nat.pow 2 F.top))
  | .finite negative quanta => some (signed negative quanta)

/-- The order of the numbers. Nothing compares with `nan`, and the two zeros are equal. -/
def le (x y : Datum F) : Bool :=
  match x.position?, y.position? with
  | some a, some b => decide (a ≤ b)
  | _, _ => false

/-- Neither an infinity nor `nan`. -/
def isFinite : Datum F → Bool
  | .finite _ _ => true
  | _ => false

/-- Neither an infinity nor `nan` nor anything but a zero. -/
def isZero : Datum F → Bool
  | .finite _ quanta => quanta == 0
  | _ => false

/-- The whole part, held within a byte: what is below zero becomes 0 and what is above 255
becomes 255; `nan` becomes 0. -/
def toByte : Datum F → UInt8
  | .nan => 0
  | .infinite negative => if negative then 0 else 255
  | .finite negative quanta =>
    if negative then 0 else UInt8.ofNat (min 255 (quanta / Nat.pow 2 F.scale))

end Datum

end FanControl.FloatingPoint
