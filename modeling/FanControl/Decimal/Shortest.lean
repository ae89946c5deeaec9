import FanControl.FloatingPoint.Basic

/-!
# The shortest decimal of a floating-point number

Many decimals read back to one floating-point number: all those of its **rounding interval**, the
numbers that lie no further from it than half the way to a neighbour. `shortest` gives the one
with the fewest digits, and among those the nearest; of two equally near ones it takes the even
digit.

A grid of decimals meets the interval exactly when one of the two grid points beside the number
does, so it is enough to look at those two for each count of digits.
-/

namespace FanControl

/-- The decimal `digits * 10 ^ exponent`. -/
structure Decimal where
  digits : Nat
  exponent : Int
deriving DecidableEq, Repr

namespace Decimal

open FloatingPoint

/-- The numbers that round to a positive number of quanta, in quarters of a quantum. -/
structure Interval where
  low : Nat
  high : Nat
  /-- Whether the two ends round to the number as well. -/
  closed : Bool
deriving DecidableEq, Repr

/-- The rounding interval of a positive number of quanta. Below a power of two the neighbour is
only half as far away, unless the number is so small that it has no exponent to lose; an end
belongs to the interval when the significand is even, for ties go to the even one. -/
def Interval.around (F : Format) (quanta : Nat) : Interval :=
  let shift := bitLength quanta - F.precision
  let unit := Nat.pow 2 shift
  let below := if quanta = Nat.pow 2 (F.fractionBits + shift) ∧ 0 < shift then unit / 2 else unit
  ⟨4 * quanta - 2 * below, 4 * quanta + 2 * unit, (quanta / unit) % 2 = 0⟩

/-- Whether `num / den` quarters of a quantum lie in the interval. -/
def Interval.contains (i : Interval) (num den : Nat) : Bool :=
  if i.closed then decide (i.low * den ≤ num ∧ num ≤ i.high * den)
  else decide (i.low * den < num ∧ num < i.high * den)

/-- `10 ^ e` as a fraction. -/
def powerOfTen (e : Int) : Nat × Nat :=
  if 0 ≤ e then (Nat.pow 10 e.toNat, 1) else (1, Nat.pow 10 (-e).toNat)

/-- The exponent of the first decimal digit of a number below one: how often `num` has to grow
tenfold to reach `den`. -/
def zerosBelowOne (num den : Nat) : Nat → Nat
  | 0 => 0
  | fuel + 1 => if den ≤ num then 0 else zerosBelowOne (10 * num) den fuel + 1

/-- The exponent of the first decimal digit of `num / den`. A number of quanta needs at most
`scale` steps below one, a quantum being more than `10 ^ (-scale)`. -/
def leadingExponent (F : Format) (quanta : Nat) : Int :=
  let whole := quanta / Nat.pow 2 F.scale
  if whole = 0 then -(zerosBelowOne quanta (Nat.pow 2 F.scale) F.scale : Int)
  else ((Nat.toDigits 10 whole).length : Int) - 1

/-- The better of the two points of the grid `10 ^ e` beside a number of quanta, if the interval
holds one. -/
def onGrid? (F : Format) (quanta : Nat) (e : Int) : Option Nat :=
  let (up, down) := powerOfTen e
  let interval := Interval.around F quanta
  let num := quanta * down
  let den := Nat.pow 2 F.scale * up
  let below := num / den
  let rest := num % den
  let holds (digits : Nat) : Bool := interval.contains (4 * digits * Nat.pow 2 F.scale * up) down
  match holds below, holds (below + 1) with
  | true, true =>
    if 2 * rest < den then some below
    else if den < 2 * rest then some (below + 1)
    else some (below + below % 2)
  | true, false => some below
  | false, true => some (below + 1)
  | false, false => none

/-- The first grid with a hit, from `10 ^ e` downwards. -/
def firstGrid (F : Format) (quanta : Nat) (e : Int) : Nat → Decimal
  | 0 => ⟨((quanta * (powerOfTen e).2) / (Nat.pow 2 F.scale * (powerOfTen e).1)), e⟩
  | fuel + 1 =>
    match onGrid? F quanta e with
    | some digits => ⟨digits, e⟩
    | none => firstGrid F quanta (e - 1) fuel

/-- The shortest decimal of a positive number of quanta. A number of `p` significant bits never
needs more than `p / 3 + 2` digits. -/
def shortest (F : Format) (quanta : Nat) : Decimal :=
  firstGrid F quanta (leadingExponent F quanta) (F.precision / 3 + 2)

end Decimal

end FanControl
