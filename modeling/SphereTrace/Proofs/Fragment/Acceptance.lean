import SphereTrace.Fragment.Assembly
import SphereTrace.Proofs.Binary32.Order
import SphereTrace.Proofs.Text.Words

/-! # Which requests are accepted

The checks of a request are made in turn, but they amount to one condition on each of its parts:
there is something to see in the scene, the steps fit a loop counter, the distances are finite,
positive and in order, and the colour of a miss, if there is one, is finite.
-/

namespace SphereTrace

namespace Fragment.Request

variable {r : Request}

/-- The constants of the march are such that rays can end in a hit and in a miss. -/
structure Marches (r : Request) : Prop where
  steps_pos : 1 ≤ r.steps.toNat
  steps_le : r.steps.toNat ≤ 0x7fffffff
  min_finite : r.minDistance.isFinite = true
  max_finite : r.maxDistance.isFinite = true
  min_pos : 0 < r.minDistance
  min_lt_max : r.minDistance < r.maxDistance

/-- A check in front of other checks. -/
theorem ite_some_eq_none_iff {α : Type} {fails : Prop} [Decidable fails] {fault : α}
    {others : Option α} :
    (if fails then some fault else others) = none ↔ ¬ fails ∧ others = none := by
  split <;> simp [*]

theorem fault?_eq_none_iff : r.fault? = none ↔
    (∃ c ∈ r.scene.toList, Text.isBlank c = false) ∧ r.Marches ∧
      ∀ colour, r.background = some colour → ∀ x ∈ colour.toList, x.isFinite = true := by
  have hbackground : (¬ (r.background.any fun c => c.toList.any fun x => !x.isFinite) = true) ↔
      ∀ colour, r.background = some colour → ∀ x ∈ colour.toList, x.isFinite = true := by
    cases r.background <;> simp
  have hpositive : (0 : Binary32).isNaN = false := by decide
  rw [← Text.isBlankText_eq_false_iff, ← Bool.not_eq_true]
  simp only [fault?, ite_some_eq_none_iff, hbackground, and_true, Bool.not_eq_true',
    Bool.and_eq_true, Bool.not_eq_false]
  constructor
  · rintro ⟨hscene, hsome, hfew, ⟨hmin, hmax⟩, hpos, horder, hcolour⟩
    have hminNaN := Binary32.isNaN_of_isFinite hmin
    have hmaxNaN := Binary32.isNaN_of_isFinite hmax
    exact ⟨hscene, ⟨by omega, by omega, hmin, hmax,
      (Binary32.not_le_iff_lt hminNaN hpositive).mp hpos,
      (Binary32.not_le_iff_lt hmaxNaN hminNaN).mp horder⟩, hcolour⟩
  · rintro ⟨hscene, hmarch, hcolour⟩
    have hminNaN := Binary32.isNaN_of_isFinite hmarch.min_finite
    have hmaxNaN := Binary32.isNaN_of_isFinite hmarch.max_finite
    have hsome := hmarch.steps_pos
    have hfew := hmarch.steps_le
    exact ⟨hscene, by omega, by omega, ⟨hmarch.min_finite, hmarch.max_finite⟩,
      (Binary32.not_le_iff_lt hminNaN hpositive).mpr hmarch.min_pos,
      (Binary32.not_le_iff_lt hmaxNaN hminNaN).mpr hmarch.min_lt_max, hcolour⟩

theorem validate_eq_ok_iff : r.validate = .ok () ↔ r.fault? = none := by
  unfold validate
  cases r.fault? <;> simp

theorem tryAssemble_eq_ok {source : String} :
    r.tryAssemble = .ok source ↔ r.validate = .ok () ∧ r.assemble = source := by
  unfold tryAssemble
  split
  next hvalid => simp [hvalid]
  next e hfault => simp [hfault]

end Fragment.Request

end SphereTrace
