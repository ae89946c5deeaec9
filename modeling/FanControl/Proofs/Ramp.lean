import FanControl.FanLaw
import FanControl.Proofs.Clamp
import FanControl.Proofs.FloatingPoint.Accuracy
import Mathlib.Data.Rat.Floor

/-!
# The ramp, in whole numbers

The ramp is computed in single precision: the ends of the band, the distance from the low end, the
product by 100, the width and the quotient are rounded, each for itself, and what comes out is cut
down to a whole percentage. `ramp_eq` says what this amounts to **in whole numbers of quanta**, once
and for all temperatures; nothing after it opens the ramp again.

Rounding keeps the order, so a greater temperature never gives a smaller percentage. What five
roundings lose is far less than one percent, so the percentage is never more than 100, and it is the
exact one or a neighbour of it wherever the ends of the band are numbers of the format.

## Main results

* `ramp_eq`: the ramp in whole numbers;
* `ramp_le`, `ramp_bounded_mono`: it is a percentage and keeps the order of the temperatures;
* `ramp_accurate`: how far it is from the exact percentage.
-/

namespace FanControl

open FloatingPoint FloatingPoint.Datum

/-! ### Numbers of quanta -/

namespace FloatingPoint.Datum

variable {F : Format} {a b : Bool} {m n : Nat}

/-- The difference of two numbers, the greater one first, is positive. -/
theorem sub_eq_of_lt (h : signed b n < signed a m) :
    (finite a m : Datum F).sub (finite b n) =
      ofQuotient F false (signed a m - signed b n).toNat 1 := by
  have hneg : signed (!b) n = -signed b n := by
    cases b <;> simp [signed]
  have hne : ¬signed a m + -signed b n = 0 := by omega
  have hpos : ¬signed a m + -signed b n < 0 := by omega
  have habs : (signed a m + -signed b n).natAbs = (signed a m - signed b n).toNat := by omega
  simp only [sub, neg, add, hneg, if_neg hne, decide_eq_false hpos, habs]

/-- A datum of single precision is its number of quanta, each of which is `2 ^ (-149)`. -/
theorem toRat_single (b : Bool) (n : Nat) :
    (finite b n : Datum .single).toRat = signed b n / 2 ^ 149 := rfl

/-- A number is no further from zero than its quanta. -/
theorem natAbs_signed (b : Bool) (n : Nat) : (signed b n).natAbs = n := by
  cases b <;> simp [signed]

end FloatingPoint.Datum

/-! ### Whole degrees -/

/-- The quanta nearest to a whole number of degrees. -/
def degrees (i : Int32) : Int :=
  signed (decide (i.toInt < 0)) (roundToPrecision 24 (i.toInt.natAbs * 2 ^ 149) 1)

/-- A whole number of degrees is converted to the datum with its sign and the nearest number of
quanta. -/
theorem ofInt_int32 (i : Int32) :
    ofInt .single i.toInt = .finite (decide (i.toInt < 0)) (degrees i).natAbs := by
  have hbounds := int32_bounds i
  rw [degrees, natAbs_signed]
  exact ofQuotient_eq_rounded (F := .single) _ Nat.one_pos (k := 181)
    (by rw [show Nat.pow 2 Format.single.scale = 2 ^ 149 from rfl]; omega) (by decide)

/-- The sign and the number of quanta of some degrees make up their signed number of quanta. -/
theorem signed_degrees (i : Int32) :
    signed (decide (i.toInt < 0)) (degrees i).natAbs = degrees i := by
  rw [degrees, natAbs_signed]

/-- The position of a whole number of degrees is its signed number of quanta. -/
theorem position?_ofInt (i : Int32) : (ofInt .single i.toInt).position? = some (degrees i) := by
  rw [ofInt_int32, position?, signed_degrees]

/-- Whole degrees are far from the infinities. -/
theorem natAbs_degrees_le (i : Int32) : (degrees i).natAbs ≤ 2 ^ 181 := by
  have hbounds := int32_bounds i
  rw [degrees, natAbs_signed]
  exact roundToPrecision_le 24 Nat.one_pos (by omega)

/-- **Degrees of few places are not rounded.** -/
theorem degrees_eq {i : Int32} (h : i.toInt.natAbs ≤ 2 ^ 24) : degrees i = i.toInt * 2 ^ 149 := by
  rw [degrees, roundToPrecision_one_eq_self (by decide) h]
  by_cases hneg : i.toInt < 0
  · rw [decide_eq_true hneg, signed, if_pos rfl]
    omega
  · rw [decide_eq_false hneg, signed, if_neg Bool.false_ne_true]
    omega

/-! ### The rise -/

/-- The percentage at a number of quanta `above` the low end of a band that is `width` quanta wide:
five roundings, one for each operation, and the cut. -/
def risePercent (above width : Nat) : Nat :=
  let product := roundToPrecision 24 (100 * roundToPrecision 24 above 1) 1
  roundToPrecision 24 (product * 2 ^ 149) (roundToPrecision 24 width 1) / 2 ^ 149

section Rise

variable {above above' width : Nat}

/-- A hundred times a rounded number, rounded once more, is hardly more than a hundred times the
number. -/
theorem two_mul_roundedHundred_le (share : Nat) :
    2 * roundToPrecision 24 (100 * share) 1 ≤ 201 * share := by
  have hplaces : 0 < 24 := by decide
  have hgain := (offBy_roundToPrecision_one hplaces (100 * share)).bounds.2
  have hshare : (0 : ℚ) ≤ share := Nat.cast_nonneg share
  have hrat : 2 * (roundToPrecision 24 (100 * share) 1 : ℚ) ≤ 201 * share := by
    push_cast at hgain
    linarith
  exact_mod_cast hrat

/-- A band that is wide at all is so after rounding. -/
theorem roundedWidth_pos (hwidth : 0 < width) : 0 < roundToPrecision 24 width 1 :=
  le_roundToPrecision (k := 0) (by decide) Nat.one_pos (by omega)

/-- The product that is divided is hardly more than a hundred times the band. -/
theorem two_mul_product_le (h : above ≤ width) :
    2 * roundToPrecision 24 (100 * roundToPrecision 24 above 1) 1 ≤
      201 * roundToPrecision 24 width 1 := by
  have hshare : roundToPrecision 24 above 1 ≤ roundToPrecision 24 width 1 :=
    roundToPrecision_mono (by decide) Nat.one_pos Nat.one_pos (by omega)
  exact (two_mul_roundedHundred_le _).trans (Nat.mul_le_mul_left _ hshare)

/-- **The rise is a percentage** within the band. -/
theorem risePercent_le (hwidth : 0 < width) (h : above ≤ width) :
    risePercent above width ≤ 100 := by
  have hproduct := two_mul_product_le h
  have hquotient : roundToPrecision 24 (roundToPrecision 24 (100 * roundToPrecision 24 above 1) 1 *
      2 ^ 149) (roundToPrecision 24 width 1) ≤ 201 * 2 ^ 148 := by
    calc roundToPrecision 24 (roundToPrecision 24 (100 * roundToPrecision 24 above 1) 1 * 2 ^ 149)
          (roundToPrecision 24 width 1)
        ≤ roundToPrecision 24 (201 * 2 ^ 148) 1 :=
          roundToPrecision_mono (by decide) (roundedWidth_pos hwidth) Nat.one_pos (by omega)
      _ = 201 * 2 ^ 148 := roundToPrecision_one_eq_self (by decide) (by decide) 148
  rw [risePercent]
  omega

/-- The rise within a band fits into a byte. -/
theorem toNat_risePercent (hwidth : 0 < width) (h : above ≤ width) :
    (UInt8.ofNat (risePercent above width)).toNat = risePercent above width := by
  have hpercent := risePercent_le hwidth h
  rw [UInt8.toNat_ofNat', Nat.mod_eq_of_lt (by omega)]

/-- **The rise keeps the order** of the temperatures. -/
theorem risePercent_mono (hwidth : 0 < width) (h : above ≤ above') :
    risePercent above width ≤ risePercent above' width := by
  have hshare : roundToPrecision 24 above 1 ≤ roundToPrecision 24 above' 1 :=
    roundToPrecision_mono (by decide) Nat.one_pos Nat.one_pos (by omega)
  have hproduct : roundToPrecision 24 (100 * roundToPrecision 24 above 1) 1 ≤
      roundToPrecision 24 (100 * roundToPrecision 24 above' 1) 1 :=
    roundToPrecision_mono (by decide) Nat.one_pos Nat.one_pos (by omega)
  have hband := roundedWidth_pos hwidth
  exact Nat.div_le_div_right (roundToPrecision_mono (by decide) hband hband
    (Nat.mul_le_mul_right _ (Nat.mul_le_mul_right _ hproduct)))

/-- **The operations on data come to the rise.** -/
theorem toByte_rise (hwidth : 0 < width) (h : above ≤ width) (hrange : width < 2 ^ 190) :
    (((ofQuotient .single false above 1).mul (.ofInt .single 100)).div
      (ofQuotient .single false width 1)).toByte = UInt8.ofNat (risePercent above width) := by
  have hplaces : 0 < 24 := by decide
  have hscale : Nat.pow 2 Format.single.scale = 2 ^ 149 := rfl
  have hhundred : ofInt .single 100 = .finite false (100 * 2 ^ 149) := by decide +kernel
  have hrounded {n : Nat} (hn : n < 2 ^ 190) :
      ofQuotient .single false n 1 = .finite false (roundToPrecision 24 n 1) :=
    ofQuotient_eq_rounded false Nat.one_pos (by rwa [Nat.mul_one]) (by decide)
  have hsmall : roundToPrecision 24 width 1 ≤ 2 ^ 190 :=
    roundToPrecision_le 24 Nat.one_pos (by rwa [Nat.mul_one])
  have hshare : roundToPrecision 24 above 1 ≤ roundToPrecision 24 width 1 :=
    roundToPrecision_mono (by decide) Nat.one_pos Nat.one_pos (by omega)
  have hband := roundedWidth_pos hwidth
  have hproduct := two_mul_product_le h
  have hpercent := risePercent_le hwidth h
  rw [hrounded (lt_of_le_of_lt h hrange), hrounded hrange, hhundred]
  rw [risePercent] at hpercent ⊢
  generalize roundToPrecision 24 above 1 = share at *
  generalize roundToPrecision 24 width 1 = band at *
  have hmul : (finite false share : Datum .single).mul (finite false (100 * 2 ^ 149)) =
      .finite false (roundToPrecision 24 (100 * share) 1) := by
    have hfactor : share * (100 * 2 ^ 149) = 100 * share * 2 ^ 149 := by ring
    have hsame : roundToPrecision 24 (100 * share * 2 ^ 149) (2 ^ 149) =
        roundToPrecision 24 (100 * share) 1 := by
      simpa using roundToPrecision_mul_right hplaces (100 * share) Nat.one_pos (Nat.two_pow_pos 149)
    rw [mul, hscale, hfactor, ← hsame]
    exact ofQuotient_eq_rounded false (Nat.two_pow_pos 149) (k := 200) (by omega) (by decide)
  have hdiv : (finite false (roundToPrecision 24 (100 * share) 1) : Datum .single).div
      (finite false band) = .finite false
        (roundToPrecision 24 (roundToPrecision 24 (100 * share) 1 * 2 ^ 149) band) := by
    rw [div, if_neg hband.ne', hscale]
    exact ofQuotient_eq_rounded false hband (k := 156) (by omega) (by decide)
  rw [hmul, hdiv, toByte, if_neg Bool.false_ne_true, hscale, Nat.min_eq_right (by omega)]

/-- Before the cut the rise is off by less than one percent. -/
theorem abs_quotient_sub_lt (hwidth : 0 < width) (h : above ≤ width) :
    |(roundToPrecision 24 (roundToPrecision 24 (100 * roundToPrecision 24 above 1) 1 * 2 ^ 149)
        (roundToPrecision 24 width 1) : ℚ) / 2 ^ 149 - 100 * above / width| < 1 := by
  have hplaces : 0 < 24 := by decide
  have hband := roundedWidth_pos hwidth
  have hshare := (offBy_roundToPrecision_one hplaces above).const_mul (c := 100) (by norm_num)
  have hproduct := offBy_roundToPrecision_one hplaces (100 * roundToPrecision 24 above 1)
  have hbandOff := offBy_roundToPrecision_one hplaces width
  have hlast := abs_roundToPrecision_sub_le hplaces
    (roundToPrecision 24 (100 * roundToPrecision 24 above 1) 1 * 2 ^ 149) hband
  rw [Nat.cast_mul, Nat.cast_ofNat] at hproduct
  rw [Nat.cast_mul, Nat.cast_pow, Nat.cast_ofNat] at hlast
  generalize roundToPrecision 24 (100 * roundToPrecision 24 above 1) 1 = product at *
  generalize roundToPrecision 24 above 1 = share at *
  generalize roundToPrecision 24 width 1 = band at *
  generalize roundToPrecision 24 (product * 2 ^ 149) band = rounded at *
  have hwidth' : (0 : ℚ) < width := Nat.cast_pos.mpr hwidth
  have habove : (0 : ℚ) ≤ 100 * above := by positivity
  -- what the quotient of the rounded numbers is off by
  have hquotient := ((hshare.trans hproduct (by norm_num)).div hbandOff habove hwidth'
    (by norm_num)).mono (ε := 1 / 2 ^ 22) (by positivity) (by norm_num)
  have hexact : (100 * above / width : ℚ) ≤ 100 := by
    rw [div_le_iff₀ hwidth']
    have hle : (above : ℚ) ≤ width := Nat.cast_le.mpr h
    linarith
  have hexact0 : (0 : ℚ) ≤ 100 * above / width := by positivity
  have hscaled : (product * 2 ^ 149 / band : ℚ) = product / band * 2 ^ 149 := by ring
  rw [hscaled] at hlast
  generalize (100 * above / width : ℚ) = exact at *
  generalize (product / band : ℚ) = quotient at *
  have hcut : |(rounded : ℚ) / 2 ^ 149 - quotient| ≤ quotient / 2 ^ 24 + 1 / 2 ^ 150 := by
    have hback : (rounded : ℚ) / 2 ^ 149 - quotient = (rounded - quotient * 2 ^ 149) / 2 ^ 149 := by
      ring
    rw [hback, abs_div, abs_of_pos (by positivity : (0 : ℚ) < 2 ^ 149), div_le_iff₀ (by positivity)]
    linarith
  have hupper := hquotient.bounds.2
  calc |(rounded : ℚ) / 2 ^ 149 - exact|
      ≤ |(rounded : ℚ) / 2 ^ 149 - quotient| + |quotient - exact| := abs_sub_le _ _ _
    _ ≤ quotient / 2 ^ 24 + 1 / 2 ^ 150 + 1 / 2 ^ 22 * exact := add_le_add hcut hquotient
    _ < 1 := by linarith

/-- Numbers that are less than one apart are cut down to neighbours at most. -/
theorem abs_floor_sub_floor_le {x y : ℚ} (h : |y - x| < 1) : |⌊y⌋ - ⌊x⌋| ≤ 1 := by
  obtain ⟨hlow, hhigh⟩ := abs_lt.mp h
  have hup : ⌊y⌋ ≤ ⌊x⌋ + 1 := by
    rw [← Int.floor_add_one]
    exact Int.floor_mono (by linarith)
  have hdown : ⌊x⌋ ≤ ⌊y⌋ + 1 := by
    rw [← Int.floor_add_one]
    exact Int.floor_mono (by linarith)
  rw [abs_le]
  omega

/-- **The rise is the exact percentage or a neighbour of it.** -/
theorem abs_risePercent_sub_floor_le (hwidth : 0 < width) (h : above ≤ width) :
    |(risePercent above width : ℤ) - ⌊(100 * above / width : ℚ)⌋| ≤ 1 := by
  have hcut (n : Nat) : ((n / 2 ^ 149 : Nat) : ℤ) = ⌊(n : ℚ) / 2 ^ 149⌋ := by
    have hfloor := Rat.floor_natCast_div_natCast n (2 ^ 149)
    rw [Nat.cast_pow, Nat.cast_ofNat] at hfloor
    rw [hfloor, Int.natCast_div]
  rw [risePercent, hcut]
  exact abs_floor_sub_floor_le (abs_quotient_sub_lt hwidth h)

end Rise

/-! ### The ramp -/

/-- **The ramp in whole numbers.** A band that is empty or upside down gives 100, and where there is
no temperature the output is zero. Otherwise the ends decide for what lies beyond them, and the rise
for what lies between. -/
theorem ramp_eq (t : Binary32) (low high : Int32) :
    ramp t low high =
      if high ≤ low then 100
      else match t.decode.position? with
        | none => 0
        | some p =>
          if p ≤ degrees low then 0
          else if degrees high ≤ p then 100
          else UInt8.ofNat
            (risePercent (p - degrees low).toNat (degrees high - degrees low).toNat) := by
  have hlow := natAbs_degrees_le low
  have hhigh := natAbs_degrees_le high
  have hleft := signed_degrees low
  have hright := signed_degrees high
  rw [ramp, ofInt_int32, ofInt_int32]
  generalize t.decode = temperature
  split
  · rfl
  · cases temperature with
    | nan => rfl
    | infinite negative =>
        -- an infinite temperature lies beyond one of the ends
        have htop : 2 ^ 181 < Nat.pow 2 Format.single.top := by
          have hrange : 181 < Format.single.top := by decide
          generalize Format.single.top = top at hrange ⊢
          exact Nat.pow_lt_pow_right (by decide) hrange
        simp only [le, position?, hleft, hright, decide_eq_true_eq]
        generalize Nat.pow 2 Format.single.top = top at *
        cases negative with
        | false =>
            have hbeyond : degrees high ≤ signed false top := by
              simp only [signed, Bool.false_eq_true, if_false]
              omega
            simp only [if_pos hbeyond]
        | true =>
            have hbelow : signed true top ≤ degrees low := by
              simp only [signed, if_true]
              omega
            simp only [if_pos hbelow]
    | finite negative quanta =>
        simp only [le, position?, hleft, hright, decide_eq_true_eq]
        split
        · rfl
        · next hbelow =>
          split
          · rfl
          · next habove =>
            have hbelow' : signed (decide (low.toInt < 0)) (degrees low).natAbs <
                signed negative quanta := by omega
            have hband : signed (decide (low.toInt < 0)) (degrees low).natAbs <
                signed (decide (high.toInt < 0)) (degrees high).natAbs := by omega
            rw [sub_eq_of_lt hbelow', sub_eq_of_lt hband, hleft, hright]
            exact toByte_rise (by omega) (by omega) (by omega)

/-- **The ramp is a percentage** at every temperature and in every band. -/
theorem ramp_le (t : Binary32) (low high : Int32) : ramp t low high ≤ 100 := by
  rw [ramp_eq]
  split
  · decide
  · split
    · decide
    · split
      · decide
      · split
        · decide
        · rw [UInt8.le_iff_toNat_le, toNat_risePercent (by omega) (by omega)]
          exact risePercent_le (by omega) (by omega)

/-! ### Order -/

/-- One datum is no greater than another exactly if both have a position and these are in order. -/
theorem FloatingPoint.Datum.le_eq_true_iff {F : Format} {x y : Datum F} :
    x.le y = true ↔ ∃ p q, x.position? = some p ∧ y.position? = some q ∧ p ≤ q := by
  rw [le]
  cases x.position? <;> cases y.position? <;> simp

/-- **The ramp keeps the order** of the temperatures. -/
theorem ramp_mono {t t' : Binary32} (low high : Int32) (h : t.decode.le t'.decode = true) :
    ramp t low high ≤ ramp t' low high := by
  obtain ⟨p, q, hp, hq, hle⟩ := le_eq_true_iff.mp h
  have hpercent := ramp_le t low high
  rw [ramp_eq] at hpercent ⊢
  rw [ramp_eq t']
  simp only [hp, hq] at hpercent ⊢
  split
  · exact UInt8.le_refl _
  · next hband =>
    simp only [if_neg hband] at hpercent
    by_cases hbelow : p ≤ degrees low
    · rw [if_pos hbelow]
      exact UInt8.zero_le
    · have hbelow' : ¬ q ≤ degrees low := by omega
      rw [if_neg hbelow']
      by_cases habove' : degrees high ≤ q
      · rw [if_pos habove']
        exact hpercent
      · have habove : ¬ degrees high ≤ p := by omega
        rw [if_neg hbelow, if_neg habove, if_neg habove', UInt8.le_iff_toNat_le,
          toNat_risePercent (by omega) (by omega), toNat_risePercent (by omega) (by omega)]
        exact risePercent_mono (by omega) (by omega)

/-- Neither end of the band decides: the temperature is not seen to be up to the low one, nor to be
from the high one on. -/
structure BetweenEnds (t : Binary32) (low high : Int32) : Prop where
  band : low < high
  low : t.decode.le (.ofInt .single low.toInt) = false
  high : (Datum.ofInt .single high.toInt).le t.decode = false

/-- The width of the band, as it is computed. -/
def bandWidth (low high : Int32) : Datum .single :=
  (Datum.ofInt .single high.toInt).sub (.ofInt .single low.toInt)

namespace BetweenEnds

variable {t : Binary32} {low high : Int32}

/-- Between the ends the division decides. -/
theorem ramp_eq_div (h : BetweenEnds t low high) :
    ramp t low high = (((t.decode.sub (.ofInt .single low.toInt)).mul (.ofInt .single 100)).div
      (bandWidth low high)).toByte := by
  have hband : ¬ high ≤ low := Int32.not_le.mpr h.band
  simp only [ramp, if_neg hband, h.low, h.high, Bool.false_eq_true, if_false, bandWidth]

/-- Between the ends there is a temperature only in a band that has a width, also after rounding. -/
theorem nan_of_isZero (h : BetweenEnds t low high) (hzero : (bandWidth low high).isZero = true) :
    t.decode = .nan := by
  have hleft := natAbs_degrees_le low
  have hright := natAbs_degrees_le high
  cases hposition : t.decode.position? with
  | none =>
      cases ht : t.decode with
      | nan => rfl
      | infinite negative | finite negative quanta => simp [ht, position?] at hposition
  | some p =>
      have hlow : ¬ p ≤ degrees low := fun hle =>
        Bool.eq_false_iff.mp h.low (le_eq_true_iff.mpr ⟨p, _, hposition, position?_ofInt low, hle⟩)
      have hhigh : ¬ degrees high ≤ p := fun hle =>
        Bool.eq_false_iff.mp h.high
          (le_eq_true_iff.mpr ⟨_, p, position?_ofInt high, hposition, hle⟩)
      have hband : signed (decide (low.toInt < 0)) (degrees low).natAbs <
          signed (decide (high.toInt < 0)) (degrees high).natAbs := by
        rw [signed_degrees, signed_degrees]
        omega
      rw [bandWidth, ofInt_int32, ofInt_int32, sub_eq_of_lt hband, signed_degrees, signed_degrees,
        ofQuotient_eq_rounded (F := .single) false Nat.one_pos (k := 190) (by omega) (by decide),
        isZero, beq_iff_eq] at hzero
      have hwidth : 0 < (degrees high - degrees low).toNat := by omega
      exact absurd hzero (roundedWidth_pos hwidth).ne'

end BetweenEnds

/-- **The ramp is a percentage and keeps the order of the temperatures**, in every band, also in one
whose ends are rounded to the same number. Where the division decides, its divisor is zero only if
there is no temperature, and then the output is zero. -/
theorem ramp_bounded_mono (low high : Int32) :
    (∀ t, ramp t low high ≤ 100) ∧
    (∀ t, BetweenEnds t low high →
      ramp t low high = (((t.decode.sub (.ofInt .single low.toInt)).mul (.ofInt .single 100)).div
        (bandWidth low high)).toByte ∧
      ((bandWidth low high).isZero = true → t.decode = .nan)) ∧
    (∀ t, t.decode = .nan → low < high → BetweenEnds t low high ∧ ramp t low high = 0) ∧
    ∀ t t', t.decode.le t'.decode = true → ramp t low high ≤ ramp t' low high := by
  refine ⟨fun t => ramp_le t low high, fun t h => ⟨h.ramp_eq_div, h.nan_of_isZero⟩, ?_,
    fun t t' h => ramp_mono low high h⟩
  intro t hnan hband
  refine ⟨⟨hband, ?_, ?_⟩, ?_⟩
  · rw [hnan]
    rfl
  · rw [hnan, ofInt_int32]
    rfl
  · rw [ramp_eq, if_neg (Int32.not_le.mpr hband), hnan]
    rfl

/-- The ends of this band are rounded to the same number, so that its width is zero. Without a
temperature the output is zero; below that number it is zero as well, and above it it is full. -/
theorem ramp_bounded_mono_collapsed :
    (bandWidth 0x7FFFFFFE 0x7FFFFFFF).isZero = true ∧
    BetweenEnds ⟨0x7FC00000⟩ 0x7FFFFFFE 0x7FFFFFFF ∧
    ramp ⟨0x7FC00000⟩ 0x7FFFFFFE 0x7FFFFFFF = 0 ∧
    ramp ⟨0x4F000000⟩ 0x7FFFFFFE 0x7FFFFFFF ≤ ramp ⟨0x7F800000⟩ 0x7FFFFFFE 0x7FFFFFFF := by
  obtain ⟨-, -, hnan, hmono⟩ := ramp_bounded_mono 0x7FFFFFFE 0x7FFFFFFF
  obtain ⟨hbetween, hzero⟩ := hnan ⟨0x7FC00000⟩ (by decide +kernel) (by decide)
  exact ⟨by decide +kernel, hbetween, hzero, hmono _ _ (by decide +kernel)⟩

/-! ### Accuracy -/

/-- **The ramp is accurate to one percent.** If the ends of the band are numbers of the format, each
temperature between them gives the exact percentage, cut down, or a neighbour of it. -/
theorem ramp_accurate {t : Binary32} {low high : Int32} (hlow : |low.toInt| ≤ 2 ^ 24)
    (hhigh : |high.toInt| ≤ 2 ^ 24) (hfinite : t.isFinite = true)
    (hbelow : (low.toInt : ℚ) < t.decode.toRat) (habove : t.decode.toRat < high.toInt) :
    |((ramp t low high).toNat : ℤ) -
      ⌊100 * (t.decode.toRat - low.toInt) / (high.toInt - low.toInt : ℚ)⌋| ≤ 1 := by
  have hplaces {i : Int32} (hi : |i.toInt| ≤ 2 ^ 24) : degrees i = i.toInt * 2 ^ 149 := by
    rw [Int.abs_eq_natAbs] at hi
    exact degrees_eq (by omega)
  have hleft := hplaces hlow
  have hright := hplaces hhigh
  cases ht : t.decode with
  | nan | infinite negative => simp [Binary32.isFinite, ht, isFinite] at hfinite
  | finite negative quanta =>
      rw [ht, toRat_single] at hbelow habove
      have hposition : t.decode.position? = some (signed negative quanta) := by rw [ht]; rfl
      rw [toRat_single]
      generalize signed negative quanta = p at *
      -- in quanta, the temperature lies between the ends
      rw [lt_div_iff₀ (by positivity)] at hbelow
      rw [div_lt_iff₀ (by positivity)] at habove
      have hlow' : degrees low < p := by
        rw [hleft]
        exact_mod_cast hbelow
      have hhigh' : p < degrees high := by
        rw [hright]
        exact_mod_cast habove
      have hband : ¬ high ≤ low := by
        rw [Int32.le_iff_toInt_le]
        omega
      rw [ramp_eq, if_neg hband, hposition]
      simp only
      have hwidth : 0 < (degrees high - degrees low).toNat := by omega
      have hinside : (p - degrees low).toNat ≤ (degrees high - degrees low).toNat := by omega
      rw [if_neg (by omega), if_neg (by omega), toNat_risePercent hwidth hinside]
      have hnear := abs_risePercent_sub_floor_le hwidth hinside
      have hcast {n : ℤ} (hn : 0 ≤ n) : ((n.toNat : Nat) : ℚ) = n := by
        exact_mod_cast congrArg (Int.cast (R := ℚ)) (Int.toNat_of_nonneg hn)
      have hexact : (100 * (p - degrees low).toNat / (degrees high - degrees low).toNat : ℚ) =
          100 * (p / 2 ^ 149 - low.toInt) / (high.toInt - low.toInt) := by
        have hne : (high.toInt : ℚ) - low.toInt ≠ 0 := by
          rw [sub_ne_zero]
          exact_mod_cast (show high.toInt ≠ low.toInt by omega)
        rw [hcast (by omega), hcast (by omega), hleft, hright, Int.cast_sub, Int.cast_sub,
          Int.cast_mul, Int.cast_mul, Int.cast_pow, Int.cast_ofNat]
        field_simp
      rwa [hexact] at hnear

/-- A little below 21.83 °C, in a band from 20 to 23 °C, the exact percentage is a little below 61,
and the ramp gives 61: the two may be neighbours. -/
theorem ramp_accurate_neighbour :
    (Binary32.decode ⟨0x41AEA3D7⟩).toRat = 11445207 / 2 ^ 19 ∧ ramp ⟨0x41AEA3D7⟩ 20 23 = 61 ∧
    ⌊(100 * (11445207 / 2 ^ 19 - 20) / (23 - 20) : ℚ)⌋ = 60 ∧
    |((ramp ⟨0x41AEA3D7⟩ 20 23).toNat : ℤ) -
      ⌊(100 * (11445207 / 2 ^ 19 - 20) / (23 - 20) : ℚ)⌋| ≤ 1 := by
  have hdecode : Binary32.decode ⟨0x41AEA3D7⟩ = .finite false (11445207 * 2 ^ 130) := by
    decide +kernel
  have hvalue : (Binary32.decode ⟨0x41AEA3D7⟩).toRat = 11445207 / 2 ^ 19 := by
    rw [hdecode, toRat_single, signed, if_neg Bool.false_ne_true]
    norm_num
  have hlow : (20 : Int32).toInt = 20 := rfl
  have hhigh : (23 : Int32).toInt = 23 := rfl
  have hfloor : ⌊(100 * (11445207 / 2 ^ 19 - 20) / (23 - 20) : ℚ)⌋ = 60 := by
    rw [Int.floor_eq_iff]
    norm_num
  refine ⟨hvalue, by decide +kernel, hfloor, ?_⟩
  have hnear := @ramp_accurate ⟨0x41AEA3D7⟩ 20 23
    (by rw [hlow]; norm_num) (by rw [hhigh]; norm_num) (by decide +kernel)
    (by rw [hvalue, hlow]; norm_num) (by rw [hvalue, hhigh]; norm_num)
  rw [hvalue, hlow, hhigh] at hnear
  exact_mod_cast hnear

end FanControl
