import FanControl.FloatingPoint.Binary32
import Mathlib.Algebra.Order.Ring.Nat
import Mathlib.Tactic.Ring

/-!
# Bounds of rounded numbers

Powers of two are representable, so **rounding does not carry a number beyond one**: what is below
`2 ^ k` quanta is rounded to at most `2 ^ k` quanta, and is therefore finite if `2 ^ k` is.

For the same reason **rounding keeps the order**. Two quotients with equally many binary digits are
rounded to multiples of one unit, and between two others there is a power of two.

## Main results

* `roundToPrecision_mono`: rounding keeps the order;
* `Datum.ofQuotient_eq_finite`: a quotient that is small enough to be finite;
* `Binary32.decode_lt`: how large a stored number is.
-/

namespace FanControl.FloatingPoint

/-! ### Binary digits -/

/-- A number below a power of two has no more binary digits than the power. -/
theorem bitLength_le {n k : Nat} (h : n < 2 ^ k) : bitLength n ≤ k := by
  rw [bitLength]
  split
  · exact Nat.zero_le k
  · next hne => exact (Nat.log2_lt hne).mpr h

/-- A number has enough binary digits. -/
theorem lt_two_pow_bitLength (n : Nat) : n < 2 ^ bitLength n := by
  rw [bitLength]
  split
  · next hzero =>
      rw [hzero]
      exact Nat.two_pow_pos 0
  · exact Nat.lt_log2_self

/-- The first binary digit of a positive number is not zero. -/
theorem two_pow_bitLength_le {n : Nat} (h : 0 < n) : 2 ^ (bitLength n - 1) ≤ n := by
  rw [bitLength, if_neg (Nat.pos_iff_ne_zero.mp h)]
  exact Nat.log2_self_le (Nat.pos_iff_ne_zero.mp h)

/-- A greater number has no fewer binary digits. -/
theorem bitLength_mono {m n : Nat} (h : m ≤ n) : bitLength m ≤ bitLength n :=
  bitLength_le (lt_of_le_of_lt h (lt_two_pow_bitLength n))

/-! ### Powers of two -/

/-- What is below a whole number is rounded to at most it. -/
theorem roundHalfEven_le {num den k : Nat} (hden : 0 < den) (h : num < k * den) :
    roundHalfEven num den ≤ k := by
  have hquotient : num / den < k := (Nat.div_lt_iff_lt_mul hden).mpr h
  simp only [roundHalfEven]
  split
  · exact hquotient
  · split <;> omega

/-- **What is below a power of two is rounded to at most it**, whatever the precision. -/
theorem roundToPrecision_le (precision : Nat) {num den k : Nat} (hden : 0 < den)
    (h : num < 2 ^ k * den) : roundToPrecision precision num den ≤ 2 ^ k := by
  have hlength : bitLength (num / den) ≤ k :=
    bitLength_le ((Nat.div_lt_iff_lt_mul hden).mpr h)
  rw [roundToPrecision]
  generalize hshift : bitLength (num / den) - precision = shift
  have hsplit : 2 ^ k = 2 ^ (k - shift) * 2 ^ shift := by
    rw [← pow_add]
    congr 1
    omega
  have hunits : num < 2 ^ (k - shift) * (den * 2 ^ shift) := by
    calc num < 2 ^ k * den := h
      _ = 2 ^ (k - shift) * (den * 2 ^ shift) := by rw [hsplit]; ring
  calc roundHalfEven num (den * 2 ^ shift) * 2 ^ shift
      ≤ 2 ^ (k - shift) * 2 ^ shift :=
        Nat.mul_le_mul_right _
          (roundHalfEven_le (Nat.mul_pos hden (Nat.two_pow_pos shift)) hunits)
    _ = 2 ^ k := hsplit.symm

/-! ### Rounding keeps the order -/

/-- Quotients in order have their whole parts in order. -/
theorem div_le_div_of_mul_le {num den num' den' : Nat} (hden : 0 < den) (hden' : 0 < den')
    (h : num * den' ≤ num' * den) : num / den ≤ num' / den' := by
  rw [Nat.le_div_iff_mul_le hden']
  refine Nat.le_of_mul_le_mul_right ?_ hden
  calc num / den * den' * den = num / den * den * den' := by ring
    _ ≤ num * den' := Nat.mul_le_mul_right _ (Nat.div_mul_le_self num den)
    _ ≤ num' * den := h

/-- Rounding goes down at most to the whole part. -/
theorem div_le_roundHalfEven (num den : Nat) : num / den ≤ roundHalfEven num den := by
  simp only [roundHalfEven]
  split
  · omega
  · split <;> omega

/-- Rounding goes up at most to the next whole number. -/
theorem roundHalfEven_le_succ (num den : Nat) : roundHalfEven num den ≤ num / den + 1 := by
  simp only [roundHalfEven]
  split
  · omega
  · split <;> omega

/-- **Rounding to a whole number keeps the order.** -/
theorem roundHalfEven_mono {num den num' den' : Nat} (hden : 0 < den) (hden' : 0 < den')
    (h : num * den' ≤ num' * den) : roundHalfEven num den ≤ roundHalfEven num' den' := by
  have hquotient := div_le_div_of_mul_le hden hden' h
  rcases Nat.lt_or_eq_of_le hquotient with hlt | heq
  · calc roundHalfEven num den ≤ num / den + 1 := roundHalfEven_le_succ num den
      _ ≤ num' / den' := hlt
      _ ≤ roundHalfEven num' den' := div_le_roundHalfEven num' den'
  · -- with the same whole part it is the remainders that are in order
    have hremainder : num % den * den' ≤ num' % den' * den := by
      have hnum := Nat.div_add_mod num den
      have hnum' := Nat.div_add_mod num' den'
      have hwhole : den * (num / den) * den' = den' * (num' / den') * den := by rw [heq]; ring
      have hleft : num * den' = den * (num / den) * den' + num % den * den' := by
        rw [← Nat.add_mul, hnum]
      have hright : num' * den = den' * (num' / den') * den + num' % den' * den := by
        rw [← Nat.add_mul, hnum']
      omega
    have habove (hup : den < 2 * (num % den)) : den' < 2 * (num' % den') := by
      refine Nat.lt_of_mul_lt_mul_left (a := den) ?_
      have hscaled := Nat.mul_lt_mul_of_pos_right hup hden'
      calc den * den' < 2 * (num % den) * den' := hscaled
        _ = 2 * (num % den * den') := by ring
        _ ≤ 2 * (num' % den' * den) := Nat.mul_le_mul_left 2 hremainder
        _ = den * (2 * (num' % den')) := by ring
    have hhalf (htie : 2 * (num % den) = den) : den' ≤ 2 * (num' % den') := by
      refine Nat.le_of_mul_le_mul_left ?_ hden
      calc den * den' = 2 * (num % den) * den' := by rw [htie]
        _ = 2 * (num % den * den') := by ring
        _ ≤ 2 * (num' % den' * den) := Nat.mul_le_mul_left 2 hremainder
        _ = den * (2 * (num' % den')) := by ring
    simp only [roundHalfEven, heq]
    split
    · next hup => rw [if_pos (habove hup)]
    · split
      · next htie =>
          have hle := hhalf htie
          split
          · omega
          · rw [if_pos (by omega)]
      · split
        · omega
        · split <;> omega

/-- A number that reaches a power of two is rounded to at least it. -/
theorem le_roundToPrecision {precision num den k : Nat} (hprecision : 0 < precision)
    (hden : 0 < den) (h : 2 ^ k * den ≤ num) : 2 ^ k ≤ roundToPrecision precision num den := by
  have hquotient : 2 ^ k ≤ num / den := (Nat.le_div_iff_mul_le hden).mpr h
  have hpos : 0 < num / den := lt_of_lt_of_le (Nat.two_pow_pos k) hquotient
  have hfirst := two_pow_bitLength_le hpos
  have hlength : k < bitLength (num / den) := by
    by_contra hle
    have hsmall := lt_two_pow_bitLength (num / den)
    have hbound := Nat.pow_le_pow_right (n := 2) (by decide) (Nat.not_lt.mp hle)
    omega
  rw [roundToPrecision]
  generalize hshift : bitLength (num / den) - precision = shift
  have hsplit : 2 ^ (bitLength (num / den) - 1) =
      2 ^ (bitLength (num / den) - 1 - shift) * 2 ^ shift := by
    rw [← pow_add]
    congr 1
    omega
  have hunits : 2 ^ (bitLength (num / den) - 1 - shift) ≤ num / (den * 2 ^ shift) := by
    rw [Nat.le_div_iff_mul_le (Nat.mul_pos hden (Nat.two_pow_pos shift))]
    calc 2 ^ (bitLength (num / den) - 1 - shift) * (den * 2 ^ shift)
        = 2 ^ (bitLength (num / den) - 1) * den := by rw [hsplit]; ring
      _ ≤ num / den * den := Nat.mul_le_mul_right _ hfirst
      _ ≤ num := Nat.div_mul_le_self num den
  calc 2 ^ k ≤ 2 ^ (bitLength (num / den) - 1) := Nat.pow_le_pow_right (by decide) (by omega)
    _ = 2 ^ (bitLength (num / den) - 1 - shift) * 2 ^ shift := hsplit
    _ ≤ roundHalfEven num (den * 2 ^ shift) * 2 ^ shift :=
        Nat.mul_le_mul_right _ (hunits.trans (div_le_roundHalfEven _ _))

/-- **Rounding keeps the order**, whatever the precision. -/
theorem roundToPrecision_mono {precision num den num' den' : Nat} (hprecision : 0 < precision)
    (hden : 0 < den) (hden' : 0 < den') (h : num * den' ≤ num' * den) :
    roundToPrecision precision num den ≤ roundToPrecision precision num' den' := by
  have hquotient := div_le_div_of_mul_le hden hden' h
  rcases Nat.lt_or_eq_of_le (bitLength_mono hquotient) with hlt | heq
  · -- a power of two lies between the two
    have hbelow : num < 2 ^ bitLength (num / den) * den :=
      (Nat.div_lt_iff_lt_mul hden).mp (lt_two_pow_bitLength _)
    have hpos : 0 < num' / den' := by
      by_contra hzero
      rw [Nat.eq_zero_of_not_pos hzero] at hlt
      exact absurd hlt (Nat.not_lt_zero _)
    have habove : 2 ^ bitLength (num / den) * den' ≤ num' := by
      rw [← Nat.le_div_iff_mul_le hden']
      refine le_trans (Nat.pow_le_pow_right (by decide) ?_) (two_pow_bitLength_le hpos)
      omega
    exact (roundToPrecision_le precision hden hbelow).trans
      (le_roundToPrecision hprecision hden' habove)
  · have hunit (n : Nat) : 0 < Nat.pow 2 n := Nat.two_pow_pos n
    simp only [roundToPrecision, heq]
    refine Nat.mul_le_mul_right _ (roundHalfEven_mono (Nat.mul_pos hden (hunit _))
      (Nat.mul_pos hden' (hunit _)) ?_)
    calc num * (den' * _) = num * den' * _ := (Nat.mul_assoc ..).symm
      _ ≤ num' * den * _ := Nat.mul_le_mul_right _ h
      _ = num' * (den * _) := Nat.mul_assoc ..

/-! ### Finite data -/

namespace Datum

/-- A quotient below a power of two in range is what it is rounded to. -/
theorem ofQuotient_eq_rounded {F : Format} (negative : Bool) {num den k : Nat} (hden : 0 < den)
    (h : num < 2 ^ k * den) (hk : k < F.top) :
    ofQuotient F negative num den = .finite negative (roundToPrecision F.precision num den) := by
  have hquanta := roundToPrecision_le F.precision hden h
  have htop : 2 ^ k < 2 ^ F.top := Nat.pow_lt_pow_right (by decide) hk
  rw [ofQuotient]
  exact if_neg (Nat.not_le.mpr (lt_of_le_of_lt hquanta htop))

/-- **A quotient below a power of two in range is finite.** -/
theorem ofQuotient_eq_finite {F : Format} (negative : Bool) {num den k : Nat} (hden : 0 < den)
    (h : num < 2 ^ k * den) (hk : k < F.top) :
    ∃ quanta ≤ 2 ^ k, ofQuotient F negative num den = .finite negative quanta :=
  ⟨_, roundToPrecision_le F.precision hden h, ofQuotient_eq_rounded negative hden h hk⟩

/-- A whole number below a power of two in range is finite. -/
theorem ofInt_eq_finite {F : Format} {i : Int} {k : Nat} (h : i.natAbs < 2 ^ k)
    (hk : k + F.scale < F.top) :
    ∃ quanta ≤ 2 ^ (k + F.scale), ofInt F i = .finite (decide (i < 0)) quanta := by
  refine ofQuotient_eq_finite _ Nat.one_pos ?_ hk
  rw [Nat.mul_one, pow_add]
  exact Nat.mul_lt_mul_of_pos_right h (Nat.two_pow_pos _)

/-- The product of two numbers below powers of two is finite if the product of the powers is in
range. -/
theorem mul_eq_finite {F : Format} (a b : Bool) {m n j k : Nat} (hm : m < 2 ^ (j + F.scale))
    (hn : n < 2 ^ (k + F.scale)) (hrange : j + k + F.scale < F.top) :
    ∃ quanta ≤ 2 ^ (j + k + F.scale),
      mul (.finite a m : Datum F) (.finite b n) = .finite (a != b) quanta := by
  refine ofQuotient_eq_finite _ (Nat.two_pow_pos _) ?_ hrange
  calc m * n < 2 ^ (j + F.scale) * 2 ^ (k + F.scale) := Nat.mul_lt_mul'' hm hn
    _ = 2 ^ (j + k + F.scale) * 2 ^ F.scale := by rw [← pow_add, ← pow_add]; congr 1; omega

end Datum

/-- The fields of a finite number stand for less than `2 ^ top` quanta. -/
theorem Format.load_lt {F : Format} (hfractionBits : 0 < F.fractionBits)
    (hexponentBits : 0 < F.exponentBits) {negative b : Bool} {fields quanta : Nat}
    (hfields : fields < 2 ^ F.exponentBits * 2 ^ F.fractionBits)
    (h : F.load b fields = .finite negative quanta) : quanta < 2 ^ F.top := by
  have hpow (n : Nat) : Nat.pow 2 n = 2 ^ n := rfl
  have hexponent : fields / 2 ^ F.fractionBits < 2 ^ F.exponentBits :=
    (Nat.div_lt_iff_lt_mul (Nat.two_pow_pos _)).mpr hfields
  have hfraction : fields % 2 ^ F.fractionBits < 2 ^ F.fractionBits :=
    Nat.mod_lt _ (Nat.two_pow_pos _)
  have htop : F.top = F.fractionBits + 2 ^ F.exponentBits - 2 := by
    have hhalf : 2 ^ F.exponentBits = 2 * 2 ^ (F.exponentBits - 1) := by
      rw [← pow_succ']
      congr 1
      omega
    have hpos := Nat.two_pow_pos (F.exponentBits - 1)
    simp only [Format.top, Format.scale, Format.bias, hpow]
    omega
  simp only [load, hpow] at h
  generalize fields / 2 ^ F.fractionBits = exponent at h hexponent
  generalize fields % 2 ^ F.fractionBits = fraction at h hfraction
  split at h
  · obtain ⟨-, rfl⟩ := Datum.finite.inj h
    have htwo : 2 ≤ 2 ^ F.exponentBits := Nat.one_lt_two_pow (Nat.ne_of_gt hexponentBits)
    exact lt_of_lt_of_le hfraction (Nat.pow_le_pow_right (by decide) (by omega))
  · split at h
    · split at h <;> cases h
    · obtain ⟨-, rfl⟩ := Datum.finite.inj h
      calc (2 ^ F.fractionBits + fraction) * 2 ^ (exponent - 1)
          < 2 ^ (F.fractionBits + 1) * 2 ^ (exponent - 1) :=
            Nat.mul_lt_mul_of_pos_right (by rw [pow_succ]; omega) (Nat.two_pow_pos _)
        _ = 2 ^ (F.fractionBits + 1 + (exponent - 1)) := (pow_add ..).symm
        _ ≤ 2 ^ F.top := Nat.pow_le_pow_right (by decide) (by omega)

/-- A stored number lies below `2 ^ 128`. -/
theorem Binary32.decode_lt (x : Binary32) {negative : Bool} {quanta : Nat}
    (h : x.decode = .finite negative quanta) : quanta < 2 ^ (Format.single.scale + 128) := by
  have htop : Format.single.scale + 128 = Format.single.top := rfl
  rw [htop]
  exact Format.load_lt (by decide) (by decide) (Nat.mod_lt _ (by decide)) h

end FanControl.FloatingPoint
