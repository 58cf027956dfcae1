import Mathlib.Algebra.Order.Field.Basic
import Mathlib.Tactic.FieldSimp
import Mathlib.Tactic.LinearCombination
import SphereTrace.March.Blend
import SphereTrace.Proofs.March.Exact

/-! # What a blend is worth

In exact arithmetic the smooth minimum of two distances is the least value of a parabola between
them. So it is symmetric, grows with both distances and no faster than they do, and lies below their
minimum by a quarter of the band at most. The material goes from that of the first sample to that of
the second one, and only in one direction.
-/

namespace SphereTrace.March

open Scalar

/-- The mixture of two distances, less a dip that is deepest in the middle. -/
def dip (a b k t : ℚ) : ℚ :=
  mix b a t - k * t * (1 - t)

/-- Where the parabola has its least value. -/
def lowest (a b k : ℚ) : ℚ :=
  1 / 2 + 1 / 2 * (b - a) / k

section Dip

variable {a b a' b' k t : ℚ}

theorem smoothMin_eq_dip (a b k : ℚ) : smoothMin a b k = dip a b k (saturate (lowest a b k)) := rfl

theorem dip_zero (a b k : ℚ) : dip a b k 0 = b := by
  rw [dip, mix_zero]
  ring

theorem dip_one (a b k : ℚ) : dip a b k 1 = a := by
  rw [dip, mix_one]
  ring

theorem dip_comm (a b k t : ℚ) : dip a b k (1 - t) = dip b a k t := by
  rw [dip, dip, mix_rat, mix_rat]
  ring

theorem dip_add (a b k t c : ℚ) : dip (a + c) (b + c) k t = dip a b k t + c := by
  rw [dip, dip, mix_rat, mix_rat]
  ring

theorem dip_mono (h : 0 ≤ t) (h' : t ≤ 1) (ha : a ≤ a') (hb : b ≤ b') :
    dip a b k t ≤ dip a' b' k t := by
  have hfirst : a * t ≤ a' * t := mul_le_mul_of_nonneg_right ha h
  have hsecond : b * (1 - t) ≤ b' * (1 - t) := mul_le_mul_of_nonneg_right hb (sub_nonneg.mpr h')
  rw [dip, dip, mix_rat, mix_rat]
  linarith

/-- How far the parabola rises between two places. -/
theorem dip_sub_dip (hk : 0 < k) (a b s t : ℚ) :
    dip a b k t - dip a b k s = k * ((t - s) * (t + s - 2 * lowest a b k)) := by
  have hband : k * (2 * lowest a b k - 1) = b - a := by
    rw [lowest]
    field_simp
    ring
  rw [dip, dip, mix_rat, mix_rat]
  linear_combination (t - s) * hband

theorem one_le_lowest_iff (hk : 0 < k) : 1 ≤ lowest a b k ↔ k ≤ b - a := by
  have hhalf : lowest a b k = (k + (b - a)) / (2 * k) := by
    rw [lowest]
    field_simp
  rw [hhalf, le_div_iff₀ (by linarith)]
  constructor <;> intro h <;> linarith

theorem half_le_lowest (hk : 0 < k) (h : a ≤ b) : 1 / 2 ≤ lowest a b k := by
  have hstep : 0 ≤ 1 / 2 * (b - a) / k := div_nonneg (by linarith) hk.le
  rw [lowest]
  linarith

/-- Of the whole parabola between the two distances, the smooth minimum is the least value. -/
theorem smoothMin_le_dip (hk : 0 < k) (ht : 0 ≤ t) (ht' : t ≤ 1) :
    smoothMin a b k ≤ dip a b k t := by
  rw [smoothMin_eq_dip, ← sub_nonneg, dip_sub_dip hk]
  generalize lowest a b k = c
  apply mul_nonneg hk.le
  -- The parabola rises from its place of least value on, or from the end of the range next to it.
  rcases le_total c 0 with hlow | hpos
  · rw [saturate_of_nonpos hlow]
    exact mul_nonneg (by linarith) (by linarith)
  rcases le_total 1 c with hhigh | hless
  · rw [saturate_of_one_le hhigh]
    exact mul_nonneg_of_nonpos_of_nonpos (by linarith) (by linarith)
  · rw [saturate_of_mem hpos hless]
    have hsquare : (t - c) * (t + c - 2 * c) = (t - c) * (t - c) := by ring
    rw [hsquare]
    exact mul_self_nonneg (t - c)

end Dip

section SmoothMin

variable {a b a' b' k : ℚ}

theorem smoothMin_mono (hk : 0 < k) (ha : a ≤ a') (hb : b ≤ b') :
    smoothMin a b k ≤ smoothMin a' b' k :=
  let t := saturate (lowest a' b' k)
  calc smoothMin a b k
      ≤ dip a b k t := smoothMin_le_dip hk (saturate_nonneg _) (saturate_le_one _)
    _ ≤ dip a' b' k t := dip_mono (saturate_nonneg _) (saturate_le_one _) ha hb
    _ = smoothMin a' b' k := (smoothMin_eq_dip a' b' k).symm

theorem smoothMin_comm (hk : 0 < k) (a b : ℚ) : smoothMin a b k = smoothMin b a k := by
  have hle : ∀ a b, smoothMin a b k ≤ smoothMin b a k := by
    intro a b
    rw [smoothMin_eq_dip b a, ← dip_comm]
    have hnonneg := saturate_nonneg (lowest b a k)
    have hle := saturate_le_one (lowest b a k)
    exact smoothMin_le_dip hk (by linarith) (by linarith)
  exact le_antisymm (hle a b) (hle b a)

theorem smoothMin_add (a b k c : ℚ) : smoothMin (a + c) (b + c) k = smoothMin a b k + c := by
  rw [smoothMin_eq_dip, smoothMin_eq_dip, dip_add, lowest, lowest, add_sub_add_right_eq_sub]

theorem smoothMin_le_min (hk : 0 < k) (a b : ℚ) : smoothMin a b k ≤ min a b := by
  apply le_min
  · exact (smoothMin_le_dip hk zero_le_one le_rfl).trans_eq (dip_one a b k)
  · exact (smoothMin_le_dip hk le_rfl zero_le_one).trans_eq (dip_zero a b k)

/-- Both distances are replaced by their minimum, which leaves the dip alone. -/
theorem min_sub_le_smoothMin (hk : 0 < k) (a b : ℚ) : min a b - k / 4 ≤ smoothMin a b k := by
  rw [smoothMin_eq_dip]
  generalize hplace : saturate (lowest a b k) = t
  have hnonneg : 0 ≤ t := hplace ▸ saturate_nonneg _
  have hle : t ≤ 1 := hplace ▸ saturate_le_one _
  have hquarter : 0 ≤ k * ((t - 1 / 2) * (t - 1 / 2)) := mul_nonneg hk.le (mul_self_nonneg _)
  calc min a b - k / 4
      ≤ dip (min a b) (min a b) k t := by
        rw [dip, mix_rat]
        linarith
    _ ≤ dip a b k t := dip_mono hnonneg hle (min_le_left _ _) (min_le_right _ _)

theorem smoothMin_eq_left_iff (hk : 0 < k) (h : a ≤ b) : smoothMin a b k = a ↔ k ≤ b - a := by
  rw [← one_le_lowest_iff hk, smoothMin_eq_dip]
  constructor
  · intro hequal
    by_contra hless
    have hlow := half_le_lowest hk h
    have hrise := dip_sub_dip hk a b (lowest a b k) 1
    rw [saturate_of_mem (by linarith) (by linarith)] at hequal
    rw [hequal, dip_one] at hrise
    have hgap : 0 < 1 - lowest a b k := by linarith
    have hpos : 0 < k * ((1 - lowest a b k) * (1 - lowest a b k)) :=
      mul_pos hk (mul_pos hgap hgap)
    linarith
  · intro hhigh
    rw [saturate_of_one_le hhigh, dip_one]

theorem smoothMin_eq_min_iff (hk : 0 < k) (a b : ℚ) :
    smoothMin a b k = min a b ↔ k ≤ |a - b| := by
  rcases le_total a b with hab | hba
  · rw [min_eq_left hab, abs_of_nonpos (by linarith), neg_sub, smoothMin_eq_left_iff hk hab]
  · rw [min_eq_right hba, abs_of_nonneg (by linarith), smoothMin_comm hk,
      smoothMin_eq_left_iff hk hba]

/-- If both distances grow by no more than a margin, then so does their smooth minimum. -/
theorem smoothMin_le_add {margin : ℚ} (hk : 0 < k) (ha : a ≤ a' + margin) (hb : b ≤ b' + margin) :
    smoothMin a b k ≤ smoothMin a' b' k + margin := by
  rw [← smoothMin_add]
  exact smoothMin_mono hk ha hb

theorem abs_smoothMin_sub_le (hk : 0 < k) (a b a' b' : ℚ) :
    |smoothMin a b k - smoothMin a' b' k| ≤ max |a - a'| |b - b'| := by
  have ha := le_max_left |a - a'| |b - b'|
  have hb := le_max_right |a - a'| |b - b'|
  generalize max |a - a'| |b - b'| = margin at *
  rw [abs_sub_le_iff] at *
  constructor
  · have hup : smoothMin a b k ≤ smoothMin a' b' k + margin :=
      smoothMin_le_add hk (by linarith) (by linarith)
    linarith
  · have hdown : smoothMin a' b' k ≤ smoothMin a b k + margin :=
      smoothMin_le_add hk (by linarith) (by linarith)
    linarith

end SmoothMin

namespace Sample

variable {k : ℚ}

theorem material_smoothMin (a b : Sample ℚ) (k : ℚ) : (a.smoothMin b k).material =
    mix a.material b.material (saturate ((a.distance - b.distance) / k)) := rfl

theorem material_of_le (hk : 0 < k) {a b : Sample ℚ} (h : a.distance ≤ b.distance) :
    (a.smoothMin b k).material = a.material := by
  have hnonpos : (a.distance - b.distance) / k ≤ 0 :=
    div_nonpos_of_nonpos_of_nonneg (sub_nonpos.mpr h) hk.le
  rw [material_smoothMin, saturate_of_nonpos hnonpos, mix_zero]

theorem material_of_band_le (hk : 0 < k) {a b : Sample ℚ} (h : k ≤ a.distance - b.distance) :
    (a.smoothMin b k).material = b.material := by
  rw [material_smoothMin, saturate_of_one_le ((one_le_div hk).mpr h), mix_one]

theorem material_mem_uIcc (a b : Sample ℚ) (k : ℚ) :
    (a.smoothMin b k).material ∈ Set.uIcc a.material b.material := by
  have hmem := mix_mem_uIcc a.material b.material
    (saturate_nonneg ((a.distance - b.distance) / k)) (saturate_le_one _)
  rwa [mix_one, ← material_smoothMin] at hmem

/-- When the second surface comes closer, its material takes over and never falls back. -/
theorem material_mem_uIcc_of_closer (hk : 0 < k) (a b : Sample ℚ) {closer : ℚ}
    (h : closer ≤ b.distance) : (a.smoothMin b k).material ∈
      Set.uIcc a.material (a.smoothMin { b with distance := closer } k).material := by
  have hfactor : (a.distance - b.distance) / k ≤ (a.distance - closer) / k :=
    div_le_div_of_nonneg_right (by linarith) hk.le
  exact mix_mem_uIcc a.material b.material (saturate_nonneg _) (saturate_mono hfactor)

end Sample

/-- A blend over a band of positive width. Its distance does not depend on the order of the two, is
below the lesser one by a quarter of the band at most and equal to it exactly outside of the band,
grows with both distances and no more than the one that changed more; distances that change no
faster than their place does keep this when they are blended. Its material is between those of the
two samples, that of the first one while this is not the farther one, that of the second one from a
lead of the whole band on, and in between it only moves away from the first as the second comes
closer. -/
theorem blend_policy {k : ℚ} (hk : 0 < k) :
    (∀ a b, smoothMin a b k = smoothMin b a k) ∧
      (∀ a b, min a b - k / 4 ≤ smoothMin a b k ∧ smoothMin a b k ≤ min a b ∧
        (smoothMin a b k = min a b ↔ k ≤ |a - b|)) ∧
      (∀ a a' b, a ≤ a' → smoothMin a b k ≤ smoothMin a' b k) ∧
      (∀ a b b', b ≤ b' → smoothMin a b k ≤ smoothMin a b' k) ∧
      (∀ a b a' b', |smoothMin a b k - smoothMin a' b' k| ≤ max |a - a'| |b - b'|) ∧
      (∀ (f g : Vec3 ℚ → ℚ) (apart : Vec3 ℚ → Vec3 ℚ → ℚ),
        (∀ p q, |f p - f q| ≤ apart p q) → (∀ p q, |g p - g q| ≤ apart p q) →
        ∀ p q, |smoothMin (f p) (g p) k - smoothMin (f q) (g q) k| ≤ apart p q) ∧
      ∀ a b : Sample ℚ,
        (a.smoothMin b k).distance = smoothMin a.distance b.distance k ∧
          (a.smoothMin b k).material ∈ Set.uIcc a.material b.material ∧
          (a.distance ≤ b.distance → (a.smoothMin b k).material = a.material) ∧
          (k ≤ a.distance - b.distance → (a.smoothMin b k).material = b.material) ∧
          ∀ closer ≤ b.distance, (a.smoothMin b k).material ∈
            Set.uIcc a.material (a.smoothMin { b with distance := closer } k).material := by
  refine ⟨smoothMin_comm hk, ?_, ?_, ?_, abs_smoothMin_sub_le hk, ?_, ?_⟩
  · intro a b
    exact ⟨min_sub_le_smoothMin hk a b, smoothMin_le_min hk a b, smoothMin_eq_min_iff hk a b⟩
  · intro a a' b ha
    exact smoothMin_mono hk ha le_rfl
  · intro a b b' hb
    exact smoothMin_mono hk le_rfl hb
  · intro f g apart hf hg p q
    exact (abs_smoothMin_sub_le hk _ _ _ _).trans (max_le (hf p q) (hg p q))
  · intro a b
    exact ⟨rfl, Sample.material_mem_uIcc a b k, Sample.material_of_le hk,
      Sample.material_of_band_le hk, fun _ => Sample.material_mem_uIcc_of_closer hk a b⟩

/-- The second surface leads by half of the band, and then by the whole band. -/
theorem blend_policy_half :
    let a : Sample ℚ := ⟨1, 0⟩
    let b : Sample ℚ := ⟨3 / 4, 10⟩
    let closer : Sample ℚ := ⟨1 / 2, 10⟩
    (0 : ℚ) < 1 / 2 ∧ a.smoothMin b (1 / 2) = ⟨23 / 32, 5⟩ ∧
      smoothMin 1 (3 / 4) (1 / 2) = smoothMin (3 / 4) 1 (1 / 2 : ℚ) ∧
      smoothMin 1 (1 / 2) (1 / 2) = min 1 (1 / 2 : ℚ) ∧
      (a.smoothMin closer (1 / 2)).material = 10 ∧
      (a.smoothMin b (1 / 2)).material ∈ Set.uIcc 0 (a.smoothMin closer (1 / 2)).material := by
  intro a b closer
  obtain ⟨hcomm, hbounds, _, _, _, _, hmaterial⟩ := blend_policy (show (0 : ℚ) < 1 / 2 by norm_num)
  obtain ⟨_, _, _, _, hmoves⟩ := hmaterial a b
  obtain ⟨_, _, _, htaken, _⟩ := hmaterial a closer
  refine ⟨by norm_num, by decide +kernel, hcomm 1 (3 / 4), ?_, ?_, ?_⟩
  · exact (hbounds 1 (1 / 2)).2.2.mpr (by norm_num [abs_of_pos])
  · exact htaken (by norm_num [a, closer])
  · exact hmoves (1 / 2) (by norm_num [b])

end SphereTrace.March
