import Mathlib.Algebra.Order.Field.Rat
import Mathlib.Order.Interval.Set.UnorderedInterval
import Mathlib.Tactic.Linarith
import Mathlib.Tactic.NormNum
import Mathlib.Tactic.Ring
import SphereTrace.March.Scalar

/-! # Exact arithmetic

The rational numbers are scalars, and the first ones with laws. Over them a saturated value is the
nearest one between zero and one, and mixing goes along a line.
-/

namespace SphereTrace

instance : Scalar ℚ where
  ofNat n := n
  decLT := inferInstance

namespace Scalar

variable {x y s t : ℚ}

theorem mix_rat (x y t : ℚ) : mix x y t = x + (y - x) * t := by
  change x * (1 - t) + y * t = _
  ring

theorem mix_zero (x y : ℚ) : mix x y 0 = x := by
  rw [mix_rat, mul_zero, add_zero]

theorem mix_one (x y : ℚ) : mix x y 1 = y := by
  rw [mix_rat]
  ring

/-- A mixture with more of the second value is farther from the first one. -/
theorem mix_mem_uIcc (x y : ℚ) (hs : 0 ≤ s) (hst : s ≤ t) : mix x y s ∈ Set.uIcc x (mix x y t) := by
  simp only [mix_rat, Set.mem_uIcc]
  rcases le_total x y with hxy | hyx
  · have hfirst : 0 ≤ (y - x) * s := mul_nonneg (sub_nonneg.mpr hxy) hs
    have hsecond : (y - x) * s ≤ (y - x) * t := mul_le_mul_of_nonneg_left hst (sub_nonneg.mpr hxy)
    exact .inl ⟨by linarith, by linarith⟩
  · have hfirst : (y - x) * s ≤ 0 := mul_nonpos_of_nonpos_of_nonneg (sub_nonpos.mpr hyx) hs
    have hsecond : (y - x) * t ≤ (y - x) * s := mul_le_mul_of_nonpos_left hst (sub_nonpos.mpr hyx)
    exact .inr ⟨by linarith, by linarith⟩

theorem saturate_rat (x : ℚ) : saturate x = max 0 (min 1 x) := by
  change (if x < 0 then 0 else if 1 < x then 1 else x) = _
  split
  next hneg => rw [min_eq_right (by linarith), max_eq_left hneg.le]
  next hnonneg =>
    split
    next hlarge => rw [min_eq_left hlarge.le, max_eq_right (by norm_num)]
    next hsmall => rw [min_eq_right (not_lt.mp hsmall), max_eq_right (not_lt.mp hnonneg)]

theorem saturate_nonneg (x : ℚ) : 0 ≤ saturate x := by
  rw [saturate_rat]
  exact le_max_left _ _

theorem saturate_le_one (x : ℚ) : saturate x ≤ 1 := by
  rw [saturate_rat]
  exact max_le zero_le_one (min_le_left _ _)

theorem saturate_mono (h : x ≤ y) : saturate x ≤ saturate y := by
  rw [saturate_rat, saturate_rat]
  exact max_le_max_left _ (min_le_min_left _ h)

theorem saturate_of_nonpos (h : x ≤ 0) : saturate x = 0 := by
  rw [saturate_rat]
  exact max_eq_left (min_le_of_right_le h)

theorem saturate_of_one_le (h : 1 ≤ x) : saturate x = 1 := by
  rw [saturate_rat, min_eq_left h, max_eq_right zero_le_one]

theorem saturate_of_mem (h : 0 ≤ x) (h' : x ≤ 1) : saturate x = x := by
  rw [saturate_rat, min_eq_right h', max_eq_right h]

end Scalar

end SphereTrace
