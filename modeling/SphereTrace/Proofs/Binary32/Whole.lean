import SphereTrace.Proofs.Binary32.Doubling

/-! # Whole numbers

A number is cut to its whole part toward zero, as far as 32 bits hold it, and a NaN counts as zero.
Whole numbers of up to 24 bits are exact, so they come back from single precision as they were.
-/

namespace SphereTrace.Binary32

/-- The whole part of a number, saturated at both ends of the 32-bit range. -/
def IsWholePart (x : Binary32) (n : Int32) : Prop :=
  if x.isNaN then n = 0
  else n.toInt = max (-0x80000000) (min 0x7fffffff (x.signedUnits.tdiv unitsPerOne))

theorem isWholePart_toInt32 (x : Binary32) : x.IsWholePart x.toInt32 := by
  have hexact : ∀ n : Int, -0x80000000 ≤ n → n ≤ 0x7fffffff → (Int32.ofInt n).toInt = n :=
    fun n hlow hhigh => Int32.toInt_ofInt_of_le hlow (Int.lt_add_one_of_le hhigh)
  have hcut : (x.units : Int).tdiv unitsPerOne = (x.units / unitsPerOne : Nat) :=
    (Int.ofNat_tdiv _ _).symm
  rw [IsWholePart, signedUnits, toInt32]
  generalize x.units / unitsPerOne = whole at hcut ⊢
  cases x.isNaN with
  | true => rfl
  | false =>
      cases x.negative with
      | true =>
          simp only [Bool.false_eq_true, if_false, if_true, Int.neg_tdiv, hcut]
          rw [hexact _ (by omega) (by omega)]
          omega
      | false =>
          simp only [Bool.false_eq_true, if_false, hcut]
          rw [hexact _ (by omega) (by omega)]
          omega

/-- Whole numbers of up to 24 bits are exact. -/
theorem exists_unitsOf_eq {n : Nat} (h : n < 0x1000000) :
    ∃ magnitude < infinityMagnitude, unitsOf magnitude = n * unitsPerOne := by
  rcases Nat.eq_zero_or_pos n with rfl | hpos
  · exact ⟨0, by decide, by rw [Nat.zero_mul]; rfl⟩
  · -- The significand is the number with its leading bit moved to the place of the implied one.
    have hbits : n.log2 ≤ 23 := Nat.le_of_lt_succ ((Nat.log2_lt (k := 24) (by omega)).mpr h)
    have hsplit := (Nat.log2_eq_iff (Nat.ne_of_gt hpos)).mp rfl
    obtain ⟨hlower, hupper⟩ := hsplit
    have hpow : 2 ^ n.log2 * 2 ^ (23 - n.log2) = binade := by
      rw [← Nat.pow_add, Nat.add_sub_cancel' hbits, binade_eq]
    have hlow : binade ≤ n * 2 ^ (23 - n.log2) := hpow ▸ Nat.mul_le_mul_right _ hlower
    have hhigh : n * 2 ^ (23 - n.log2) < 2 * binade := by
      rw [← hpow, ← Nat.mul_assoc, ← Nat.pow_succ']
      exact (Nat.mul_lt_mul_right (Nat.two_pow_pos _)).mpr hupper
    obtain ⟨fraction, hfraction⟩ := Nat.exists_eq_add_of_le hlow
    refine ⟨(126 + n.log2 + 1) * binade + fraction, ?_, ?_⟩
    · have htop : (126 + n.log2 + 1) * binade ≤ 150 * binade := Nat.mul_le_mul_right _ (by omega)
      have hbound : 150 * binade + binade < infinityMagnitude := by decide
      omega
    · have hexponent : 23 - n.log2 + (126 + n.log2) = 149 := by omega
      rw [unitsOf_add (by omega), ← hfraction, Nat.mul_assoc, ← Nat.pow_add, hexponent,
        unitsPerOne_eq]

theorem signedUnits_ofInt {n : Int} (h : n.natAbs < 0x1000000) :
    (ofInt n).isFinite = true ∧ (ofInt n).signedUnits = n * unitsPerOne := by
  obtain ⟨magnitude, hfinite, hunits⟩ := exists_unitsOf_eq h
  have hsize : magnitude < signWeight := Nat.lt_trans hfinite (by decide)
  have hnearest : ofInt n = ofMagnitude (decide (n < 0)) magnitude := by
    rw [ofInt, ofUnits, ← hunits, nearestMagnitude_unitsOf hfinite]
  rw [hnearest]
  refine ⟨decide_eq_true (by rwa [magnitude_ofMagnitude hsize]), ?_⟩
  rw [signedUnits, negative_ofMagnitude hsize, units, magnitude_ofMagnitude hsize, hunits,
    Nat.cast_mul]
  by_cases hn : n < 0
  · rw [if_pos (decide_eq_true hn), ← Int.neg_mul]
    congr 1
    omega
  · rw [if_neg (by simpa using hn)]
    congr 1
    omega

/-- Whole numbers of up to 24 bits come back. -/
theorem toInt_toInt32_ofInt {n : Int} (h : n.natAbs < 0x1000000) : (ofInt n).toInt32.toInt = n := by
  obtain ⟨hfinite, hunits⟩ := signedUnits_ofInt h
  have hpos : (unitsPerOne : Int) ≠ 0 := by decide
  have hpart := isWholePart_toInt32 (ofInt n)
  rw [IsWholePart, isNaN_of_isFinite hfinite, if_neg (by decide), hunits,
    Int.mul_tdiv_cancel _ hpos] at hpart
  omega

end SphereTrace.Binary32
