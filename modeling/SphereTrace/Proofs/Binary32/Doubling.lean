import SphereTrace.Proofs.Binary32.Order
import SphereTrace.Proofs.Binary32.Rounding

/-! # Twice a number

Twice a finite number is exact or infinite, so it is never below a positive number that it is twice
of.
-/

namespace SphereTrace.Binary32

/-- The magnitude of twice the units. Next to zero the magnitudes count the units, and above the
exponent grows by one. -/
def doubled (magnitude : Nat) : Nat :=
  if magnitude < binade then 2 * magnitude else magnitude + binade

theorem le_doubled (magnitude : Nat) : magnitude ≤ doubled magnitude := by
  rw [doubled]
  split <;> omega

theorem unitsOf_doubled (magnitude : Nat) :
    unitsOf (doubled magnitude) = unitsOf magnitude * 2 := by
  rw [doubled]
  split
  next hsmall =>
    have hunits : unitsOf magnitude = magnitude := if_pos hsmall
    rcases Nat.lt_or_ge (2 * magnitude) binade with hless | hmore
    · have htwice : unitsOf (2 * magnitude) = 2 * magnitude := if_pos hless
      rw [htwice, hunits, Nat.mul_comm]
    · have hsplit : 2 * magnitude = (0 + 1) * binade + (2 * magnitude - binade) := by omega
      rw [hsplit, unitsOf_add (by omega), hunits]
      omega
  next hlarge =>
    obtain ⟨exponent, fraction, hfraction, rfl⟩ := exists_exponent (Nat.not_lt.mp hlarge)
    have hnext : (exponent + 1) * binade + fraction + binade =
        (exponent + 1 + 1) * binade + fraction := by
      rw [Nat.succ_mul (exponent + 1)]
      omega
    rw [hnext, unitsOf_add hfraction, unitsOf_add hfraction, Nat.pow_succ, Nat.mul_assoc]

section Signs

variable {negative : Bool} {magnitude : Nat}

theorem toNat_bits_ofMagnitude (h : magnitude < signWeight) :
    (ofMagnitude negative magnitude).bits.toNat =
      magnitude + if negative then signWeight else 0 := by
  rw [ofMagnitude, UInt32.toNat_ofNat']
  apply Nat.mod_eq_of_lt
  rw [signWeight] at *
  split <;> omega

theorem magnitude_ofMagnitude (h : magnitude < signWeight) :
    (ofMagnitude negative magnitude).magnitude = magnitude := by
  rw [Binary32.magnitude, toNat_bits_ofMagnitude h]
  cases negative with
  | false => exact Nat.mod_eq_of_lt h
  | true => rw [if_pos rfl, Nat.add_mod_right, Nat.mod_eq_of_lt h]

theorem negative_ofMagnitude (h : magnitude < signWeight) :
    (ofMagnitude negative magnitude).negative = negative := by
  rw [Binary32.negative, toNat_bits_ofMagnitude h]
  cases negative with
  | false => exact decide_eq_false (Nat.not_le.mpr h)
  | true => exact decide_eq_true (Nat.le_add_left _ _)

end Signs

variable {x y : Binary32}

theorem mul_of_isFinite (hx : x.isFinite = true) (hy : y.isFinite = true) :
    x * y = ofUnits (x.negative != y.negative) (x.units * y.units) unitsPerOne := by
  change mul x y = _
  simp only [mul, isNaN_of_isFinite hx, isNaN_of_isFinite hy, isInfinite_of_isFinite hx,
    isInfinite_of_isFinite hy, Bool.or_false, Bool.false_eq_true, if_false]

theorem mul_two (hfinite : x.isFinite = true) :
    x * 2 = ofMagnitude x.negative (min (doubled x.magnitude) infinityMagnitude) := by
  have htwo : (2 : Binary32).units = 2 * unitsPerOne := by decide
  have hsign : (2 : Binary32).negative = false := by decide
  have hone : 0 < unitsPerOne := by decide
  have hunits : x.units * (2 * unitsPerOne) = unitsOf (doubled x.magnitude) * unitsPerOne := by
    rw [unitsOf_doubled, Nat.mul_assoc, units]
  have hratio := nearestMagnitude_mul_right (unitsOf (doubled x.magnitude)) 1 hone
  rw [Nat.one_mul, nearestMagnitude_unitsOf_eq_min] at hratio
  rw [mul_of_isFinite hfinite (by decide), htwo, hsign, ofUnits, hunits, hratio, Bool.bne_false]

/-- Twice a positive finite number is not below it. -/
theorem not_mul_two_lt (hfinite : x.isFinite = true) (hpos : 0 < x) : ¬ x * 2 < x := by
  have hsign := negative_of_pos hpos
  have hbound : min (doubled x.magnitude) infinityMagnitude < signWeight :=
    Nat.lt_of_le_of_lt (Nat.min_le_right _ _) (by decide)
  have hge : x.magnitude ≤ min (doubled x.magnitude) infinityMagnitude :=
    Nat.le_min.mpr ⟨le_doubled _, Nat.le_of_lt (of_decide_eq_true hfinite)⟩
  intro hless
  have hrank : (x * 2).rank < x.rank := hless.2.2
  rw [mul_two hfinite, hsign, rank_of_not_negative (negative_ofMagnitude hbound),
    rank_of_not_negative hsign, magnitude_ofMagnitude hbound] at hrank
  omega

end SphereTrace.Binary32
