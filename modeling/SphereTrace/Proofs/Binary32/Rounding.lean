import Mathlib.Algebra.Order.Ring.Nat
import Mathlib.Tactic.NormNum
import Mathlib.Tactic.Ring
import SphereTrace.Binary32.Basic

/-! # Rounding to single precision

The nearest number to a ratio depends on the value of the ratio alone, and not on how it is written.
A number that is exact is not changed. From some size on the answer is infinite, and below the half
of the least number it is zero.
-/

namespace SphereTrace.Binary32

theorem binade_eq : binade = 2 ^ 23 := rfl

section Ratio

variable {num den : Nat}

theorem roundQuotient_mul_right (num den : Nat) {k : Nat} (hk : 0 < k) :
    roundQuotient (num * k) (den * k) = roundQuotient num den := by
  have hless : 2 * (num % den * k) < den * k ↔ 2 * (num % den) < den := by
    rw [← Nat.mul_assoc, Nat.mul_lt_mul_right hk]
  have hmore : den * k < 2 * (num % den * k) ↔ den < 2 * (num % den) := by
    rw [← Nat.mul_assoc, Nat.mul_lt_mul_right hk]
  simp only [roundQuotient, Nat.mul_mod_mul_right, Nat.mul_div_mul_right _ _ hk, hless, hmore]

theorem nearestMagnitude_mul_right (num den : Nat) {k : Nat} (hk : 0 < k) :
    nearestMagnitude (num * k) (den * k) = nearestMagnitude num den := by
  have hshift : ∀ exponent, (den * k) <<< exponent = den <<< exponent * k := by
    intro exponent
    rw [Nat.shiftLeft_eq, Nat.shiftLeft_eq, Nat.mul_right_comm]
  simp only [nearestMagnitude, Nat.mul_div_mul_right _ _ hk, hshift, roundQuotient_mul_right _ _ hk]

/-- Equal ratios have the same nearest number. -/
theorem nearestMagnitude_congr {num' den' : Nat} (h : num * den' = num' * den) (hden : 0 < den)
    (hden' : 0 < den') : nearestMagnitude num den = nearestMagnitude num' den' := by
  rw [← nearestMagnitude_mul_right num den hden', ← nearestMagnitude_mul_right num' den' hden, h,
    Nat.mul_comm den den']

theorem roundQuotient_of_lt (h : 2 * num < den) : roundQuotient num den = 0 := by
  have hlt : num < den := by omega
  rw [roundQuotient, Nat.mod_eq_of_lt hlt, if_pos h, Nat.div_eq_of_lt hlt]

theorem nearestMagnitude_of_lt (h : 2 * num < den) : nearestMagnitude num den = 0 := by
  have hlt : num < den := by omega
  have hzero : Nat.log2 0 - 23 = 0 := by decide
  simp only [nearestMagnitude, Nat.div_eq_of_lt hlt, hzero, Nat.zero_mul, Nat.shiftLeft_zero,
    roundQuotient_of_lt h, Nat.add_zero, Nat.zero_min]

theorem nearestMagnitude_zero (hden : 0 < den) : nearestMagnitude 0 den = 0 :=
  nearestMagnitude_of_lt hden

/-- Ratios beyond the finite numbers. -/
theorem nearestMagnitude_of_le {power : Nat} (hpower : 278 ≤ power) (hden : 0 < den)
    (h : 2 ^ power * den ≤ num) : nearestMagnitude num den = infinityMagnitude := by
  have hquotient : 2 ^ power ≤ num / den := (Nat.le_div_iff_mul_le hden).mpr h
  have hne : num / den ≠ 0 := Nat.ne_of_gt (Nat.lt_of_lt_of_le (Nat.two_pow_pos power) hquotient)
  have hlog : power ≤ (num / den).log2 := (Nat.le_log2 hne).mpr hquotient
  have hexponent : 255 * binade ≤ ((num / den).log2 - 23) * binade :=
    Nat.mul_le_mul_right _ (by omega)
  rw [nearestMagnitude]
  apply Nat.min_eq_right
  exact Nat.le_trans hexponent (Nat.le_add_right _ _)

end Ratio

theorem exists_exponent {magnitude : Nat} (h : binade ≤ magnitude) :
    ∃ exponent fraction, fraction < binade ∧ magnitude = (exponent + 1) * binade + fraction := by
  have hpos : 0 < binade := by decide
  have hquotient := Nat.div_pos h hpos
  refine ⟨magnitude / binade - 1, magnitude % binade, Nat.mod_lt _ hpos, ?_⟩
  rw [Nat.sub_add_cancel hquotient, Nat.mul_comm, Nat.div_add_mod]

/-- The units of a magnitude above the first binade, by its exponent and its significand. -/
theorem unitsOf_add {exponent fraction : Nat} (h : fraction < binade) :
    unitsOf ((exponent + 1) * binade + fraction) = (binade + fraction) * 2 ^ exponent := by
  have hpos : 0 < binade := by decide
  have hlarge : ¬ (exponent + 1) * binade + fraction < binade := by
    rw [Nat.succ_mul]
    omega
  rw [unitsOf, if_neg hlarge, Nat.shiftLeft_eq, Nat.mul_comm (exponent + 1) binade,
    Nat.mul_add_mod, Nat.mod_eq_of_lt h, Nat.mul_add_div hpos, Nat.div_eq_of_lt h]
  rfl

/-- An exact number of units is not rounded, and one beyond the finite numbers is infinite. -/
theorem nearestMagnitude_unitsOf_eq_min (magnitude : Nat) :
    nearestMagnitude (unitsOf magnitude) 1 = min magnitude infinityMagnitude := by
  have hexact : ∀ n exponent, roundQuotient (n * 2 ^ exponent) (1 <<< exponent) = n := by
    intro n exponent
    rw [Nat.shiftLeft_eq, roundQuotient_mul_right _ _ (Nat.two_pow_pos exponent), roundQuotient,
      Nat.mod_one, if_pos (by decide), Nat.div_one]
  -- Above the first binade the implied bit decides the logarithm of the units.
  rcases Nat.lt_or_ge magnitude binade with hsmall | hlarge
  · have hunits : unitsOf magnitude = magnitude := if_pos hsmall
    have hlog : magnitude.log2 - 23 = 0 := by
      rcases Nat.eq_zero_or_pos magnitude with rfl | hpos
      · decide
      · have hlt := (Nat.log2_lt (k := 23) (by omega)).mpr hsmall
        omega
    have hround := hexact magnitude 0
    rw [Nat.pow_zero, Nat.mul_one] at hround
    simp only [nearestMagnitude, hunits, Nat.div_one, hlog, hround, Nat.zero_mul, Nat.zero_add]
  · obtain ⟨exponent, fraction, hfraction, rfl⟩ := exists_exponent hlarge
    have hlog : ((binade + fraction) * 2 ^ exponent).log2 - 23 = exponent := by
      have hpow := Nat.two_pow_pos exponent
      have hlower : 2 ^ (23 + exponent) ≤ (binade + fraction) * 2 ^ exponent := by
        rw [Nat.pow_add, ← binade_eq]
        exact Nat.mul_le_mul_right _ (Nat.le_add_right _ _)
      have hupper : (binade + fraction) * 2 ^ exponent < 2 ^ (23 + exponent + 1) := by
        rw [Nat.pow_succ', Nat.pow_add, ← Nat.mul_assoc, ← binade_eq]
        exact (Nat.mul_lt_mul_right hpow).mpr (by omega)
      rw [(Nat.log2_eq_iff (by omega)).mpr ⟨hlower, hupper⟩]
      omega
    simp only [nearestMagnitude, unitsOf_add hfraction, Nat.div_one, hlog, hexact]
    rw [Nat.succ_mul, Nat.add_assoc]

theorem nearestMagnitude_unitsOf {magnitude : Nat} (h : magnitude < infinityMagnitude) :
    nearestMagnitude (unitsOf magnitude) 1 = magnitude := by
  rw [nearestMagnitude_unitsOf_eq_min, Nat.min_eq_left (Nat.le_of_lt h)]

theorem ofMagnitude_magnitude (x : Binary32) : ofMagnitude x.negative x.magnitude = x := by
  have hbits : x.bits.toNat < 2 ^ 32 := x.bits.toNat_lt
  have hsplit : x.magnitude + (if x.negative then signWeight else 0) = x.bits.toNat := by
    rw [magnitude, negative]
    by_cases hsign : signWeight ≤ x.bits.toNat <;> simp only [hsign, decide_true, decide_false] <;>
      simp only [signWeight, if_true, Bool.false_eq_true, if_false] at hsign ⊢ <;> omega
  rw [ofMagnitude, hsplit, UInt32.ofNat_toNat]

/-- Decimal places can be moved between the significand and the exponent. -/
theorem ofDecimal_mul_pow (negative : Bool) (significand places : Nat) (exponent : Int) :
    ofDecimal negative (significand * 10 ^ places) (exponent - places) =
      ofDecimal negative significand exponent := by
  have hexponents : places + (exponent - places).toNat + (-exponent).toNat =
      exponent.toNat + (-(exponent - places)).toNat := by
    omega
  have hpow : ∀ n, 0 < 10 ^ n := fun n => Nat.pow_pos (by decide)
  simp only [ofDecimal, ofUnits, Nat.pow_eq]
  refine congrArg (ofMagnitude negative) (nearestMagnitude_congr ?_ (hpow _) (hpow _))
  calc significand * 10 ^ places * 10 ^ (exponent - places).toNat * unitsPerOne *
        10 ^ (-exponent).toNat
      = significand * unitsPerOne *
          10 ^ (places + (exponent - places).toNat + (-exponent).toNat) := by
        simp only [pow_add]
        ring
    _ = significand * 10 ^ exponent.toNat * unitsPerOne *
          10 ^ (-(exponent - places)).toNat := by
        rw [hexponents, pow_add]
        ring

/-- A decimal is a ratio in units of the least number, over the units of its last place. -/
theorem ofDecimal_sub_grid {grid scale : Nat} (hscale : unitsPerOne * scale = 10 ^ grid)
    (hpos : 0 < scale) (negative : Bool) (significand places : Nat) :
    ofDecimal negative significand (places - grid) =
      ofMagnitude negative (nearestMagnitude (significand * 10 ^ places) scale) := by
  have hexponents : ((places : Int) - grid).toNat + grid =
      places + (-((places : Int) - grid)).toNat := by
    omega
  have hpow : 0 < 10 ^ (-((places : Int) - grid)).toNat := Nat.pow_pos (by decide)
  simp only [ofDecimal, ofUnits, Nat.pow_eq]
  refine congrArg (ofMagnitude negative) (nearestMagnitude_congr ?_ hpow hpos)
  rw [Nat.mul_assoc, hscale, Nat.mul_assoc, ← pow_add, hexponents, pow_add, ← Nat.mul_assoc]

theorem ofDecimal_zero (negative : Bool) (exponent : Int) :
    ofDecimal negative 0 exponent = zero negative := by
  have hpow : 0 < 10 ^ (-exponent).toNat := Nat.pow_pos (by decide)
  rw [ofDecimal, Nat.zero_mul, Nat.zero_mul, Nat.pow_eq, ofUnits, nearestMagnitude_zero hpow, zero]

theorem unitsPerOne_eq : unitsPerOne = 2 ^ 149 := by
  rw [unitsPerOne, Nat.shiftLeft_eq, Nat.one_mul]

/-- Any whole number of units of `10 ^ 60` is beyond the finite numbers. -/
theorem ofDecimal_of_le (negative : Bool) {significand : Nat} (hsignificand : 0 < significand)
    {exponent : Int} (hexponent : 60 ≤ exponent) :
    ofDecimal negative significand exponent = infinity negative := by
  have hpower : 2 ^ (3 * exponent.toNat + 149) * 1 ≤
      significand * 10 ^ exponent.toNat * unitsPerOne := by
    rw [unitsPerOne_eq, Nat.mul_one, Nat.pow_add, Nat.pow_mul]
    apply Nat.mul_le_mul_right
    calc (2 ^ 3) ^ exponent.toNat ≤ 10 ^ exponent.toNat := Nat.pow_le_pow_left (by decide) _
      _ ≤ significand * 10 ^ exponent.toNat := Nat.le_mul_of_pos_left _ hsignificand
  have hunit : (-exponent).toNat = 0 := by omega
  rw [ofDecimal, hunit, Nat.pow_eq, Nat.pow_eq, Nat.pow_zero, ofUnits, infinity,
    nearestMagnitude_of_le (by omega) (by decide) hpower]

/-- A decimal below `10 ^ -60` is zero. -/
theorem ofDecimal_of_lt (negative : Bool) {significand places : Nat}
    (hsignificand : significand < 10 ^ places) {exponent : Int}
    (hexponent : exponent ≤ -(places : Int) - 60) :
    ofDecimal negative significand exponent = zero negative := by
  have hsmall : 2 * (significand * unitsPerOne) < 10 ^ (-exponent).toNat :=
    calc 2 * (significand * unitsPerOne)
        = significand * 2 ^ 150 := by rw [unitsPerOne_eq]; ring
      _ < 10 ^ places * 2 ^ 150 := (Nat.mul_lt_mul_right (Nat.two_pow_pos 150)).mpr hsignificand
      _ ≤ 10 ^ places * 10 ^ 60 := Nat.mul_le_mul_left _ (by norm_num)
      _ = 10 ^ (places + 60) := (Nat.pow_add _ _ _).symm
      _ ≤ 10 ^ (-exponent).toNat := Nat.pow_le_pow_right (by decide) (by omega)
  have hwhole : exponent.toNat = 0 := by omega
  rw [ofDecimal, hwhole, Nat.pow_eq, Nat.pow_eq, Nat.pow_zero, Nat.mul_one, ofUnits,
    nearestMagnitude_of_lt hsmall, zero]

end SphereTrace.Binary32
