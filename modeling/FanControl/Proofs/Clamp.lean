import FanControl.Clamp

/-!
# Numbers that are sent as integers

A byte or a number of 32 bits is sent as an integer of 64 bits and held within its field when it
arrives. One that fits the field arrives as it is.
-/

namespace FanControl

/-- A signed number of 64 bits is from `-2 ^ 63` on and below `2 ^ 63`. -/
theorem int64_bounds (i : Int64) :
    -0x8000000000000000 ≤ i.toInt ∧ i.toInt < 0x8000000000000000 := by
  have hlow := i.minValue_le_toInt
  have hhigh := i.toInt_le
  simp only [Int64.toInt_minValue, Int64.toInt_maxValue] at hlow hhigh
  omega

/-- A signed number of 32 bits is from `-2 ^ 31` on and below `2 ^ 31`. -/
theorem int32_bounds (i : Int32) : -0x80000000 ≤ i.toInt ∧ i.toInt < 0x80000000 := by
  have hlow := i.minValue_le_toInt
  have hhigh := i.toInt_le
  simp only [Int32.toInt_minValue, Int32.toInt_maxValue] at hlow hhigh
  omega

/-- A number that is held within a range is in it. -/
theorem toNat_clampByte_le (top : Nat) (i : Int64) : (clampByte top i).toNat ≤ top := by
  rw [clampByte, UInt8.toNat_ofNat']
  exact Nat.le_trans (Nat.mod_le _ _) (Nat.min_le_left _ _)

/-- The number of the smaller one of two bytes is the smaller one of their numbers. -/
theorem toNat_min_byte (x y : UInt8) : (min x y).toNat = min x.toNat y.toNat := by
  have hmin : min x y = if x ≤ y then x else y := rfl
  rw [hmin]
  split
  · next hle =>
    rw [UInt8.le_iff_toNat_le] at hle
    exact (Nat.min_eq_left hle).symm
  · next hle =>
    rw [UInt8.le_iff_toNat_le] at hle
    exact (Nat.min_eq_right (by omega)).symm

/-- **Holding a number within a byte first makes no difference** to holding it within a smaller
range. -/
theorem toNat_min_clampByte (top : UInt8) (i : Int64) :
    ((min (clampByte 255 i) top).toNat : Int) = max 0 (min (top.toNat : Int) i.toInt) := by
  have htop := top.toNat_lt
  have hbyte : (clampByte 255 i).toNat = min 255 i.toInt.toNat := by
    rw [clampByte, UInt8.toNat_ofNat', Nat.mod_eq_of_lt (by omega)]
  rw [toNat_min_byte, hbyte]
  omega

/-- The percentage nearest to a number is 100 at most. -/
theorem percent_le (i : Int64) : percent i ≤ 100 :=
  UInt8.le_iff_toNat_le.mpr (toNat_clampByte_le 100 i)

/-- A byte that is sent as an integer arrives as the nearest number in range. -/
theorem clampByte_ofInt (top : Nat) (x : UInt8) :
    clampByte top (Int64.ofInt x.toNat) = UInt8.ofNat (min top x.toNat) := by
  have hx := x.toNat_lt
  have hint : (Int64.ofInt (x.toNat : Int)).toInt = x.toNat :=
    Int64.toInt_ofInt_of_le (by omega) (by omega)
  rw [clampByte, hint, Int.toNat_natCast]

/-- The nearest byte to a byte is itself. -/
theorem clampByte_255_ofInt (x : UInt8) : clampByte 255 (Int64.ofInt x.toNat) = x := by
  have hx := x.toNat_lt
  rw [clampByte_ofInt, Nat.min_eq_right (by omega), UInt8.ofNat_toNat]

/-- The percentage nearest to a byte is the byte, up to 100. -/
theorem percent_ofInt (x : UInt8) : percent (Int64.ofInt x.toNat) = min x 100 := by
  have hx := x.toNat_lt
  have h100 : (100 : UInt8).toNat = 100 := rfl
  rw [percent, clampByte_ofInt, ← UInt8.toNat_inj, UInt8.toNat_ofNat', Nat.mod_eq_of_lt (by omega),
    toNat_min_byte, h100, Nat.min_comm]

/-- A number of 32 bits that is sent as an integer arrives as it is. -/
theorem clampInt32_ofInt (x : Int32) : clampInt32 (Int64.ofInt x.toInt) = x := by
  have hbounds := int32_bounds x
  have hint : (Int64.ofInt x.toInt).toInt = x.toInt :=
    Int64.toInt_ofInt_of_le (by omega) (by omega)
  have hclamp : max (-0x80000000) (min 0x7FFFFFFF x.toInt) = x.toInt := by omega
  rw [clampInt32, hint, hclamp, Int32.ofInt_toInt]

end FanControl
