/-!
# Numbers held within a range

The device's fields are narrow and the numbers that reach them are not. Each of them is replaced
by the nearest number that the field can hold.
-/

namespace FanControl

/-- The nearest number from 0 to `top`, which is at most 255. -/
def clampByte (top : Nat) (i : Int64) : UInt8 := UInt8.ofNat (min top i.toInt.toNat)

/-- The nearest percentage. -/
def percent (i : Int64) : UInt8 := clampByte 100 i

/-- The nearest number of 32 bits. -/
def clampInt32 (i : Int64) : Int32 := Int32.ofInt (max (-0x80000000) (min 0x7FFFFFFF i.toInt))

/-- The nearest number from one up. -/
def atLeastOne (n : Nat) : Nat := max n 1

/-- No number from one up is zero. -/
theorem atLeastOne_pos (n : Nat) : 0 < atLeastOne n := Nat.le_max_right n 1

end FanControl
