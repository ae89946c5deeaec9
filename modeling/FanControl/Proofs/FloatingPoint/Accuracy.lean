import FanControl.Proofs.FloatingPoint.Rounding
import Mathlib.Algebra.Order.Field.Rat
import Mathlib.Algebra.Order.Ring.Abs
import Mathlib.Tactic.FieldSimp
import Mathlib.Tactic.Linarith
import Mathlib.Tactic.Positivity

/-!
# How accurate rounded numbers are

Rounding moves a number by half a unit in its last place at most. That is one part in
`2 ^ precision` of it, or half a quantum if the number is too small to have all of its places.
Whole numbers lose nothing to the second case, and those with few places lose nothing at all.

What a computation loses in all is put together from what each of its steps loses. `OffBy ε x y`
says that `y` differs from `x` by the share `ε` of `x` at most; an exact factor keeps such a bound,
and the bounds of the steps of a chain and of the two sides of a quotient add up.

## Main results

* `abs_roundToPrecision_sub_le`: how far a quotient is moved;
* `offBy_roundToPrecision_one`: how far a whole number is;
* `roundToPrecision_one_eq_self`: what is not moved at all;
* `OffBy.trans`, `OffBy.div`: how the losses of several steps add up.
-/

namespace FanControl.FloatingPoint

variable {precision num den : Nat}

/-! ### Whole numbers -/

/-- Rounding to a whole number goes up or down by a half at most. -/
theorem two_mul_roundHalfEven_bounds (num : Nat) (hden : 0 < den) :
    2 * (den * roundHalfEven num den) ≤ 2 * num + den ∧
      2 * num ≤ 2 * (den * roundHalfEven num den) + den := by
  have hnum := Nat.div_add_mod num den
  have hrest := Nat.mod_lt num hden
  have hnext : den * (num / den + 1) = den * (num / den) + den := Nat.mul_succ ..
  simp only [roundHalfEven]
  split
  · omega
  · split
    · -- a tie goes either way
      rcases Nat.mod_two_eq_zero_or_one (num / den) with heven | hodd
      · rw [heven, Nat.add_zero]
        omega
      · rw [hodd]
        omega
    · omega

/-- A quotient that is rounded is off by one half at most. -/
theorem abs_roundHalfEven_sub_le (num : Nat) (hden : 0 < den) :
    |(roundHalfEven num den : ℚ) - num / den| ≤ 1 / 2 := by
  obtain ⟨hup, hdown⟩ := two_mul_roundHalfEven_bounds num hden
  have hpos : (0 : ℚ) < den := Nat.cast_pos.mpr hden
  have hquotient : (num : ℚ) / den * den = num := div_mul_cancel₀ _ hpos.ne'
  have hup' : 2 * ((den : ℚ) * roundHalfEven num den) ≤ 2 * num + den := by exact_mod_cast hup
  have hdown' : 2 * (num : ℚ) ≤ 2 * (den * roundHalfEven num den) + den := by exact_mod_cast hdown
  rw [abs_le]
  constructor
  · refine le_of_mul_le_mul_right ?_ hpos
    linarith
  · refine le_of_mul_le_mul_right ?_ hpos
    linarith

/-- Rounding to a whole number leaves whole numbers alone. -/
theorem roundHalfEven_mul (n : Nat) (hden : 0 < den) : roundHalfEven (den * n) den = n := by
  have hup : ¬ den < 2 * 0 := Nat.not_lt_zero den
  have htie : ¬ 2 * 0 = den := hden.ne
  simp only [roundHalfEven, Nat.mul_div_cancel_left n hden, Nat.mul_mod_right, if_neg hup,
    if_neg htie]

/-! ### The unit in the last place -/

/-- **Rounding moves a quotient** by half a unit in its last place at most. -/
theorem abs_roundToPrecision_sub_le_unit (precision num : Nat) (hden : 0 < den) :
    |(roundToPrecision precision num den : ℚ) - num / den| ≤
      2 ^ (bitLength (num / den) - precision) / 2 := by
  have hpow (k : Nat) : Nat.pow 2 k = 2 ^ k := rfl
  simp only [roundToPrecision, hpow]
  generalize bitLength (num / den) - precision = shift
  have hunit : (0 : ℚ) < 2 ^ shift := by positivity
  have hround := abs_roundHalfEven_sub_le num (Nat.mul_pos hden (Nat.two_pow_pos shift))
  generalize roundHalfEven num (den * 2 ^ shift) = units at *
  -- the number of units is off by a half at most
  have hscaled : ((units * 2 ^ shift : Nat) : ℚ) - num / den =
      (units - num / (den * 2 ^ shift : Nat)) * 2 ^ shift := by
    push_cast
    rw [sub_mul, ← div_div, div_mul_cancel₀ _ hunit.ne']
  calc |((units * 2 ^ shift : Nat) : ℚ) - num / den|
      = |(units : ℚ) - num / (den * 2 ^ shift : Nat)| * 2 ^ shift := by
        rw [hscaled, abs_mul, abs_of_pos hunit]
    _ ≤ 1 / 2 * 2 ^ shift := mul_le_mul_of_nonneg_right hround hunit.le
    _ = 2 ^ shift / 2 := by ring

/-- The unit in the last place is one quantum, or it is small beside the number. -/
theorem unit_eq_one_or_le (hprecision : 0 < precision) (num : Nat) (hden : 0 < den) :
    bitLength (num / den) - precision = 0 ∨
      (2 : ℚ) ^ (bitLength (num / den) - precision) / 2 ≤ num / den / 2 ^ precision := by
  rcases Nat.eq_zero_or_pos (bitLength (num / den) - precision) with hzero | hpos
  · exact .inl hzero
  · have hwhole : 0 < num / den := by
      by_contra hzero
      rw [Nat.eq_zero_of_not_pos hzero] at hpos
      simp [bitLength] at hpos
    have hsplit : 2 ^ (bitLength (num / den) - precision) * 2 ^ precision =
        2 * 2 ^ (bitLength (num / den) - 1) := by
      rw [← pow_add, ← pow_succ']
      congr 1
      omega
    have hnat : 2 ^ (bitLength (num / den) - precision) * 2 ^ precision * den ≤ 2 * num := by
      calc 2 ^ (bitLength (num / den) - precision) * 2 ^ precision * den
          = 2 * (2 ^ (bitLength (num / den) - 1) * den) := by rw [hsplit]; ring
        _ ≤ 2 * (num / den * den) :=
          Nat.mul_le_mul_left 2 (Nat.mul_le_mul_right den (two_pow_bitLength_le hwhole))
        _ ≤ 2 * num := Nat.mul_le_mul_left 2 (Nat.div_mul_le_self num den)
    have hrat : (2 : ℚ) ^ (bitLength (num / den) - precision) * 2 ^ precision * den ≤ 2 * num := by
      exact_mod_cast hnat
    have hpos : (0 : ℚ) < den := Nat.cast_pos.mpr hden
    right
    rw [div_div, div_le_div_iff₀ two_pos (by positivity)]
    linarith

/-- **Rounding moves a quotient** by one part in `2 ^ precision` of it and half a quantum at
most. -/
theorem abs_roundToPrecision_sub_le (hprecision : 0 < precision) (num : Nat) (hden : 0 < den) :
    |(roundToPrecision precision num den : ℚ) - num / den| ≤
      num / den / 2 ^ precision + 1 / 2 := by
  refine (abs_roundToPrecision_sub_le_unit precision num hden).trans ?_
  rcases unit_eq_one_or_le hprecision num hden with hone | hsmall
  · have hquotient : (0 : ℚ) ≤ num / den / 2 ^ precision := by positivity
    rw [hone, pow_zero]
    linarith
  · linarith

/-- A whole number is not moved if the unit in its last place divides it. -/
theorem roundToPrecision_one_of_dvd {n : Nat} (h : 2 ^ (bitLength n - precision) ∣ n) :
    roundToPrecision precision n 1 = n := by
  have hpow (k : Nat) : Nat.pow 2 k = 2 ^ k := rfl
  simp only [roundToPrecision, Nat.div_one, Nat.one_mul, hpow]
  generalize bitLength n - precision = shift at *
  obtain ⟨units, rfl⟩ := h
  rw [roundHalfEven_mul units (Nat.two_pow_pos shift), Nat.mul_comm]

/-- **A number of few places is not moved**: it is a multiple of a power of two, and the factor has
no more places than the precision allows, or is the next power of two. -/
theorem roundToPrecision_one_eq_self (hprecision : 0 < precision) {m : Nat}
    (hm : m ≤ 2 ^ precision) (k : Nat) : roundToPrecision precision (m * 2 ^ k) 1 = m * 2 ^ k := by
  refine roundToPrecision_one_of_dvd ?_
  rcases Nat.lt_or_eq_of_le hm with hlt | rfl
  · have hlength : bitLength (m * 2 ^ k) ≤ precision + k := by
      refine bitLength_le ?_
      rw [pow_add]
      exact Nat.mul_lt_mul_of_pos_right hlt (Nat.two_pow_pos k)
    exact (pow_dvd_pow 2 (by omega)).trans (Nat.dvd_mul_left _ _)
  · rw [← pow_add]
    have hlength : bitLength (2 ^ (precision + k)) ≤ precision + k + 1 :=
      bitLength_le (Nat.pow_lt_pow_right (by decide) (Nat.lt_succ_self _))
    exact pow_dvd_pow 2 (by omega)

/-- Rounding depends on the quotient only. -/
theorem roundToPrecision_mul_right {k : Nat} (hprecision : 0 < precision) (num : Nat)
    (hden : 0 < den) (hk : 0 < k) :
    roundToPrecision precision (num * k) (den * k) = roundToPrecision precision num den := by
  have hsame : num * k * den = num * (den * k) := by ring
  exact Nat.le_antisymm
    (roundToPrecision_mono hprecision (Nat.mul_pos hden hk) hden hsame.le)
    (roundToPrecision_mono hprecision hden (Nat.mul_pos hden hk) hsame.ge)

/-- The rational number that a finite datum stands for, and zero for the others. -/
def Datum.toRat {F : Format} : Datum F → ℚ
  | .finite negative quanta => signed negative quanta / 2 ^ F.scale
  | .infinite _ | .nan => 0

/-! ### Several roundings -/

/-- A number `y` differs from a number `x` by the share `ε` of `x` at most. -/
def OffBy (ε x y : ℚ) : Prop := |y - x| ≤ ε * x

/-- **Rounding moves a whole number** by one part in `2 ^ precision` at most. -/
theorem offBy_roundToPrecision_one (hprecision : 0 < precision) (n : Nat) :
    OffBy (1 / 2 ^ precision) n (roundToPrecision precision n 1) := by
  have hmoved := abs_roundToPrecision_sub_le_unit precision n Nat.one_pos
  rw [Nat.cast_one, div_one] at hmoved
  rcases unit_eq_one_or_le hprecision n Nat.one_pos with hone | hsmall
  · have hsame : roundToPrecision precision n 1 = n := by
      refine roundToPrecision_one_of_dvd ?_
      rw [Nat.div_one] at hone
      rw [hone, pow_zero]
      exact Nat.one_dvd n
    rw [OffBy, hsame, sub_self, abs_zero]
    positivity
  · rw [Nat.cast_one, div_one] at hsmall
    rw [OffBy, one_div_mul_eq_div]
    exact hmoved.trans hsmall

namespace OffBy

variable {δ ε x y z v w : ℚ}

/-- A number that is off by a share is between the exact one less that share and the exact one plus
that share. -/
theorem bounds (h : OffBy ε x y) : (1 - ε) * x ≤ y ∧ y ≤ (1 + ε) * x := by
  have hboth := abs_le.mp h
  constructor
  · linarith [hboth.1]
  · linarith [hboth.2]

/-- A greater share is a weaker bound. -/
theorem mono (h : OffBy δ x y) (hx : 0 ≤ x) (hle : δ ≤ ε) : OffBy ε x y :=
  h.trans (mul_le_mul_of_nonneg_right hle hx)

/-- An exact factor keeps the share. -/
theorem const_mul (h : OffBy ε x y) {c : ℚ} (hc : 0 ≤ c) : OffBy ε (c * x) (c * y) := by
  have hscaled : |c * y - c * x| = c * |y - x| := by rw [← mul_sub, abs_mul, abs_of_nonneg hc]
  calc |c * y - c * x| = c * |y - x| := hscaled
    _ ≤ c * (ε * x) := mul_le_mul_of_nonneg_left h hc
    _ = ε * (c * x) := by ring

/-- **The shares of two steps add up**, with a share of the share. -/
theorem trans (h : OffBy δ x y) (h' : OffBy ε y z) (hε : 0 ≤ ε) :
    OffBy (δ + ε + δ * ε) x z := by
  have hgrown : ε * y ≤ ε * ((1 + δ) * x) := mul_le_mul_of_nonneg_left h.bounds.2 hε
  calc |z - x| ≤ |z - y| + |y - x| := abs_sub_le z y x
    _ ≤ ε * y + δ * x := add_le_add h' h
    _ ≤ ε * ((1 + δ) * x) + δ * x := by linarith
    _ = (δ + ε + δ * ε) * x := by ring

/-- **The shares of the two sides of a quotient add up**, and count for a little more because the
divisor may have become smaller. -/
theorem div (h : OffBy δ x y) (h' : OffBy ε v w) (hx : 0 ≤ x) (hv : 0 < v) (hε : ε < 1) :
    OffBy ((δ + ε) / (1 - ε)) (x / v) (y / w) := by
  have hrest : 0 < 1 - ε := by linarith
  have hw : 0 < w := lt_of_lt_of_le (mul_pos hrest hv) h'.bounds.1
  have hcross : |y * v - x * w| ≤ (δ + ε) * (x * v) := by
    calc |y * v - x * w| = |(y - x) * v - x * (w - v)| := by ring_nf
      _ ≤ |(y - x) * v| + |x * (w - v)| := abs_sub _ _
      _ = |y - x| * v + x * |w - v| := by rw [abs_mul, abs_mul, abs_of_pos hv, abs_of_nonneg hx]
      _ ≤ δ * x * v + x * (ε * v) :=
        add_le_add (mul_le_mul_of_nonneg_right h hv.le) (mul_le_mul_of_nonneg_left h' hx)
      _ = (δ + ε) * (x * v) := by ring
  have hdifference : y / w - x / v = (y * v - x * w) / (w * v) := by
    field_simp
  have hsum : 0 ≤ (δ + ε) * (x * v) := (abs_nonneg _).trans hcross
  rw [OffBy, hdifference, abs_div, abs_of_pos (mul_pos hw hv), div_le_iff₀ (mul_pos hw hv)]
  calc |y * v - x * w| ≤ (δ + ε) * (x * v) := hcross
    _ = (δ + ε) * (x * v) / ((1 - ε) * v) * ((1 - ε) * v) := by
        rw [div_mul_cancel₀ _ (mul_pos hrest hv).ne']
    _ ≤ (δ + ε) * (x * v) / ((1 - ε) * v) * w :=
        mul_le_mul_of_nonneg_left h'.bounds.1 (div_nonneg hsum (mul_pos hrest hv).le)
    _ = (δ + ε) / (1 - ε) * (x / v) * (w * v) := by
        field_simp

end OffBy

end FanControl.FloatingPoint
