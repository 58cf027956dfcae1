import SphereTrace.Binary32.Arithmetic

/-! # The order of single-precision numbers

A comparison holds between numbers other than NaNs only. Between these the order is that of the
ranks, so it is strict, and linear up to the two zeros.
-/

namespace SphereTrace.Binary32

variable {x y z : Binary32}

theorem isNaN_of_isFinite (h : x.isFinite = true) : x.isNaN = false := by
  simp only [isFinite, decide_eq_true_eq] at h
  simp only [isNaN, decide_eq_false_iff_not]
  omega

theorem isInfinite_of_isFinite (h : x.isFinite = true) : x.isInfinite = false :=
  beq_eq_false_iff_ne.mpr (Nat.ne_of_lt (of_decide_eq_true h))

/-- Between numbers other than NaNs one of two comparisons holds. -/
theorem not_le_iff_lt (hx : x.isNaN = false) (hy : y.isNaN = false) : ¬ x ≤ y ↔ y < x := by
  change ¬ (x.isNaN = false ∧ y.isNaN = false ∧ x.rank ≤ y.rank) ↔
    (y.isNaN = false ∧ x.isNaN = false ∧ y.rank < x.rank)
  simp [hx, hy]

theorem lt_trans (hxy : x < y) (hyz : y < z) : x < z :=
  ⟨hxy.1, hyz.2.1, Int.lt_trans hxy.2.2 hyz.2.2⟩

theorem lt_asymm (h : x < y) : ¬ y < x := fun h' => Int.lt_asymm h.2.2 h'.2.2

theorem negative_of_pos (h : 0 < x) : x.negative = false := by
  have hrank : (0 : Binary32).rank < x.rank := h.2.2
  have hzero : (0 : Binary32).rank = 0 := by decide
  rw [hzero, rank] at hrank
  split at hrank
  next => omega
  next hsign => exact Bool.not_eq_true _ ▸ hsign

theorem rank_of_not_negative (h : x.negative = false) : x.rank = x.magnitude :=
  if_neg (by simp [h])

end SphereTrace.Binary32
