import FanControl.FloatingPoint.Basic

/-!
# Single-precision bit patterns

A temperature travels as the thirty-two bits of a single-precision number. `Binary32` keeps the
bits themselves, so that a device which stores a pattern gives back that very pattern, and
`Binary32.decode` says which number they stand for.
-/

namespace FanControl.FloatingPoint

namespace Format

/-- The stored fields of a number of quanta: a number that has lost `k` binary places to the
exponent is stored as `k` steps of the exponent field above its significand. -/
def store (F : Format) (quanta : Nat) : Nat :=
  let shift := bitLength quanta - F.precision
  shift * Nat.pow 2 F.fractionBits + quanta / Nat.pow 2 shift

/-- The stored fields of an infinity: an exponent of ones and no fraction. -/
def storedInfinity (F : Format) : Nat := (Nat.pow 2 F.exponentBits - 1) * Nat.pow 2 F.fractionBits

/-- The datum whose sign and stored fields are given. -/
def load (F : Format) (negative : Bool) (fields : Nat) : Datum F :=
  let exponent := fields / Nat.pow 2 F.fractionBits
  let fraction := fields % Nat.pow 2 F.fractionBits
  if exponent = 0 then .finite negative fraction
  else if exponent = Nat.pow 2 F.exponentBits - 1 then
    if fraction = 0 then .infinite negative else .nan
  else .finite negative ((Nat.pow 2 F.fractionBits + fraction) * Nat.pow 2 (exponent - 1))

end Format

/-- A single-precision number as it is stored. -/
structure Binary32 where
  /-- Sign, biased exponent and fraction, from the top bit down. -/
  bits : UInt32
deriving DecidableEq, Repr

namespace Binary32

/-- The number that the bits stand for. -/
def decode (x : Binary32) : Datum .single :=
  Format.load .single (decide (0x80000000 ≤ x.bits.toNat)) (x.bits.toNat % 0x80000000)

/-- The bits of a number; of the many patterns for `nan`, the plain quiet one. -/
def encode (x : Datum .single) : Binary32 :=
  let withSign (negative : Bool) (fields : Nat) : Binary32 :=
    ⟨UInt32.ofNat (fields + if negative then 0x80000000 else 0)⟩
  match x with
  | .nan => withSign false (Format.storedInfinity .single + 0x400000)
  | .infinite negative => withSign negative (Format.storedInfinity .single)
  | .finite negative quanta => withSign negative (Format.store .single quanta)

/-- Neither an infinity nor `nan`. -/
def isFinite (x : Binary32) : Bool := x.decode.isFinite

/-- The positive zero. -/
def zero : Binary32 := ⟨0⟩

end Binary32

end FanControl.FloatingPoint
