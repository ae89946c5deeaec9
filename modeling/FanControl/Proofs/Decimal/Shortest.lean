import FanControl.Decimal.Shortest
import Mathlib.Algebra.Order.Ring.Nat
import Mathlib.Tactic.Ring

/-!
# The size of a shortest decimal

The search for the shortest decimal of a number starts at the grid of its first digit and goes on to
finer ones, so the grid point below the number is never zero, and whatever the search ends with
**has a first digit and is at most twice the number**. That is all that can be said without the
rounding interval, and it is enough to bound the exponent of the first digit.

## Main results

* `Decimal.shortest_approximates`: the shortest decimal of a positive number;
* `Decimal.Approximates.leading_lt`: the exponent of its first digit.
-/

namespace FanControl.Decimal

open FloatingPoint

/-! ### Powers of ten -/

theorem powerOfTen_natCast (n : Nat) : powerOfTen n = (10 ^ n, 1) := by
  rw [powerOfTen, if_pos (Int.natCast_nonneg n), Int.toNat_natCast]
  rfl

theorem powerOfTen_neg_natCast (n : Nat) : powerOfTen (-n) = (1, 10 ^ n) := by
  cases n with
  | zero => rfl
  | succ n =>
      rw [powerOfTen, if_neg (by omega), Int.neg_neg, Int.toNat_natCast]
      rfl

/-- An exponent is a power of ten, or one below one. -/
theorem powerOfTen_cases (e : Int) :
    (∃ n : Nat, e = n ∧ powerOfTen e = (10 ^ n, 1)) ∨
    ∃ n : Nat, e = -n ∧ powerOfTen e = (1, 10 ^ n) := by
  obtain ⟨n, rfl | rfl⟩ := Int.eq_nat_or_neg e
  · exact .inl ⟨n, rfl, powerOfTen_natCast n⟩
  · exact .inr ⟨n, rfl, powerOfTen_neg_natCast n⟩

/-! ### Grids below a number -/

/-- Whether a number of quanta is at least `10 ^ e`. -/
def Reaches (F : Format) (quanta : Nat) (e : Int) : Prop :=
  2 ^ F.scale * (powerOfTen e).1 ≤ quanta * (powerOfTen e).2

/-- A number that reaches a grid reaches the next finer one. -/
theorem Reaches.pred {F : Format} {quanta : Nat} {e : Int} (h : Reaches F quanta e) :
    Reaches F quanta (e - 1) := by
  rw [Reaches] at h ⊢
  rcases powerOfTen_cases e with ⟨n, rfl, hpower⟩ | ⟨n, rfl, hpower⟩
  · rw [hpower] at h
    cases n with
    | zero =>
        rw [show ((0 : Nat) : Int) - 1 = -(1 : Nat) from rfl, powerOfTen_neg_natCast]
        simp only [pow_zero, pow_one] at h ⊢
        omega
    | succ n =>
        rw [show ((n + 1 : Nat) : Int) - 1 = n by omega, powerOfTen_natCast]
        refine le_trans (Nat.mul_le_mul_left _ ?_) h
        exact Nat.pow_le_pow_right (by decide) (Nat.le_succ n)
  · rw [hpower] at h
    rw [show -(n : Int) - 1 = -(n + 1 : Nat) by omega, powerOfTen_neg_natCast]
    refine le_trans h (Nat.mul_le_mul_left _ ?_)
    exact Nat.pow_le_pow_right (by decide) (Nat.le_succ n)

/-- After as many tenfold steps as it has zeros a number below one has reached one, if the fuel
lasts. -/
theorem le_mul_zerosBelowOne {num den fuel : Nat} (h : den ≤ num * 10 ^ fuel) :
    den ≤ num * 10 ^ zerosBelowOne num den fuel := by
  induction fuel generalizing num with
  | zero => exact h
  | succ fuel ih =>
      rw [zerosBelowOne]
      split
      · next hle => rwa [pow_zero, Nat.mul_one]
      · have hten : den ≤ 10 * num * 10 ^ fuel := by
          calc den ≤ num * 10 ^ (fuel + 1) := h
            _ = 10 * num * 10 ^ fuel := by ring
        calc den ≤ 10 * num * 10 ^ zerosBelowOne (10 * num) den fuel := ih hten
          _ = num * 10 ^ (zerosBelowOne (10 * num) den fuel + 1) := by ring

/-- **A positive number reaches the grid of its first digit.** -/
theorem reaches_leadingExponent (F : Format) {quanta : Nat} (h : 0 < quanta) :
    Reaches F quanta (leadingExponent F quanta) := by
  have hpow : Nat.pow 2 F.scale = 2 ^ F.scale := rfl
  simp only [Reaches, leadingExponent, hpow]
  split
  · rw [powerOfTen_neg_natCast, Nat.mul_one]
    refine le_mul_zerosBelowOne ?_
    calc 2 ^ F.scale ≤ 10 ^ F.scale := Nat.pow_le_pow_left (by decide) _
      _ ≤ quanta * 10 ^ F.scale := Nat.le_mul_of_pos_left _ h
  · next hwhole =>
    generalize hn : quanta / 2 ^ F.scale = whole at hwhole ⊢
    have hlength : 0 < (Nat.toDigits 10 whole).length := Nat.length_toDigits_pos
    have hdigit : 10 ^ ((Nat.toDigits 10 whole).length - 1) ≤ whole := by
      by_contra hlt
      cases hone : (Nat.toDigits 10 whole).length - 1 with
      | zero =>
          rw [hone, pow_zero] at hlt
          omega
      | succ k =>
          have := (Nat.length_toDigits_le_iff (b := 10) (n := whole) (k := k + 1)
            (by decide) (Nat.succ_pos k)).mpr (by rw [← hone]; omega)
          omega
    rw [show ((Nat.toDigits 10 whole).length : Int) - 1 =
      ((Nat.toDigits 10 whole).length - 1 : Nat) by omega, powerOfTen_natCast, Nat.mul_one]
    calc 2 ^ F.scale * 10 ^ ((Nat.toDigits 10 whole).length - 1)
        ≤ 2 ^ F.scale * whole := Nat.mul_le_mul_left _ hdigit
      _ = whole * 2 ^ F.scale := Nat.mul_comm _ _
      _ ≤ quanta := by
          rw [← hn]
          exact Nat.div_mul_le_self quanta _

/-! ### Decimals near a number -/

/-- Whether a decimal is positive and at most twice a number of quanta. -/
structure Approximates (F : Format) (quanta : Nat) (d : Decimal) : Prop where
  pos : 0 < d.digits
  le : d.digits * (2 ^ F.scale * (powerOfTen d.exponent).1) ≤
    2 * (quanta * (powerOfTen d.exponent).2)

/-- Both grid points beside a number are near it if it reaches the grid. -/
theorem Reaches.approximates {F : Format} {quanta : Nat} {e : Int} (h : Reaches F quanta e)
    {digits : Nat}
    (hdigits : digits = quanta * (powerOfTen e).2 / (2 ^ F.scale * (powerOfTen e).1) ∨
      digits = quanta * (powerOfTen e).2 / (2 ^ F.scale * (powerOfTen e).1) + 1) :
    Approximates F quanta ⟨digits, e⟩ := by
  rw [Reaches] at h
  have hpower : 0 < (powerOfTen e).1 := by
    rcases powerOfTen_cases e with ⟨n, -, hpower⟩ | ⟨n, -, hpower⟩ <;> simp [hpower]
  have hden : 0 < 2 ^ F.scale * (powerOfTen e).1 := Nat.mul_pos (Nat.two_pow_pos _) hpower
  generalize hnum : quanta * (powerOfTen e).2 = num at h hdigits
  generalize hunit : 2 ^ F.scale * (powerOfTen e).1 = den at h hdigits hden
  have hone : 1 ≤ num / den := (Nat.one_le_div_iff hden).mpr h
  have htwice : digits ≤ 2 * (num / den) := by omega
  refine ⟨by dsimp only; omega, ?_⟩
  dsimp only
  rw [hunit, hnum]
  calc digits * den ≤ 2 * (num / den) * den := Nat.mul_le_mul_right _ htwice
    _ = 2 * (num / den * den) := Nat.mul_assoc ..
    _ ≤ 2 * num := Nat.mul_le_mul_left _ (Nat.div_mul_le_self num den)

/-- A hit on a grid is one of the two points beside the number. -/
theorem onGrid?_eq_some {F : Format} {quanta : Nat} {e : Int} {digits : Nat}
    (h : onGrid? F quanta e = some digits) :
    digits = quanta * (powerOfTen e).2 / (2 ^ F.scale * (powerOfTen e).1) ∨
    digits = quanta * (powerOfTen e).2 / (2 ^ F.scale * (powerOfTen e).1) + 1 := by
  have hpow : Nat.pow 2 F.scale = 2 ^ F.scale := rfl
  simp only [onGrid?, hpow] at h
  split at h
  · split at h
    · exact .inl (Option.some.inj h).symm
    · split at h
      · exact .inr (Option.some.inj h).symm
      · have := Option.some.inj h
        omega
  · exact .inl (Option.some.inj h).symm
  · exact .inr (Option.some.inj h).symm
  · cases h

/-- A search ends near the number, whether it hits a grid or not. -/
theorem Reaches.firstGrid {F : Format} {quanta : Nat} {e : Int} (h : Reaches F quanta e)
    (fuel : Nat) : Approximates F quanta (firstGrid F quanta e fuel) := by
  induction fuel generalizing e with
  | zero => exact h.approximates (.inl rfl)
  | succ fuel ih =>
      rw [Decimal.firstGrid]
      split
      · next hgrid => exact h.approximates (onGrid?_eq_some hgrid)
      · exact ih h.pred

/-- **The shortest decimal of a positive number has a first digit and is at most twice the
number.** -/
theorem shortest_approximates (F : Format) {quanta : Nat} (h : 0 < quanta) :
    Approximates F quanta (shortest F quanta) :=
  (reaches_leadingExponent F h).firstGrid _

/-- **The first digit of a decimal near a number below `2 ^ b` stands for less than `10 ^ m`**, if
twice the bound is at most that. -/
theorem Approximates.leading_lt {F : Format} {quanta : Nat} {d : Decimal}
    (h : Approximates F quanta d) {b m : Nat} (hquanta : quanta < 2 ^ (F.scale + b))
    (hpower : 2 ^ (b + 1) ≤ 10 ^ m) :
    d.exponent + (Nat.toDigits 10 d.digits).length - 1 < m := by
  have hbound : 2 * quanta < 10 ^ m * 2 ^ F.scale := by
    calc 2 * quanta < 2 * 2 ^ (F.scale + b) := Nat.mul_lt_mul_of_pos_left hquanta (by decide)
      _ = 2 ^ (b + 1) * 2 ^ F.scale := by ring
      _ ≤ 10 ^ m * 2 ^ F.scale := Nat.mul_le_mul_right _ hpower
  obtain ⟨digits, exponent⟩ := d
  obtain ⟨hpos, hle⟩ := h
  dsimp only at hpos hle ⊢
  rcases powerOfTen_cases exponent with ⟨n, rfl, hten⟩ | ⟨n, rfl, hten⟩
  · rw [hten, Nat.mul_one] at hle
    have hdigits : digits * 10 ^ n < 10 ^ m := by
      refine Nat.lt_of_mul_lt_mul_right (a := 2 ^ F.scale) ?_
      calc digits * 10 ^ n * 2 ^ F.scale = digits * (2 ^ F.scale * 10 ^ n) := by ring
        _ ≤ 2 * quanta := hle
        _ < 10 ^ m * 2 ^ F.scale := hbound
    have hn : n < m := by
      have : 10 ^ n < 10 ^ m := lt_of_le_of_lt (Nat.le_mul_of_pos_left _ hpos) hdigits
      exact (Nat.pow_lt_pow_iff_right (by decide)).mp this
    have hsplit : 10 ^ m = 10 ^ (m - n) * 10 ^ n := by
      rw [← pow_add]
      congr 1
      omega
    have hlength := (Nat.length_toDigits_le_iff (b := 10) (n := digits) (k := m - n)
      (by decide) (by omega)).mpr
      (Nat.lt_of_mul_lt_mul_right (a := 10 ^ n) (by rw [← hsplit]; exact hdigits))
    omega
  · rw [hten, Nat.mul_one] at hle
    have hdigits : digits < 10 ^ (m + n) := by
      refine Nat.lt_of_mul_lt_mul_right (a := 2 ^ F.scale) ?_
      calc digits * 2 ^ F.scale ≤ 2 * (quanta * 10 ^ n) := hle
        _ = 2 * quanta * 10 ^ n := by ring
        _ < 10 ^ m * 2 ^ F.scale * 10 ^ n :=
            Nat.mul_lt_mul_of_pos_right hbound (Nat.pow_pos (by decide))
        _ = 10 ^ (m + n) * 2 ^ F.scale := by ring
    have hm : 0 < m := by
      by_contra hzero
      rw [show m = 0 by omega, pow_zero] at hpower
      have := Nat.one_lt_two_pow (n := b + 1) (by omega)
      omega
    have hlength := (Nat.length_toDigits_le_iff (b := 10) (n := digits) (k := m + n)
      (by decide) (by omega)).mpr hdigits
    omega

end FanControl.Decimal
