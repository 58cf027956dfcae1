import Mathlib.Algebra.Order.Field.Basic
import SphereTrace.Proofs.March.Budget
import SphereTrace.Proofs.March.Exact

/-! # A march does not step through a surface

Along the ray a scene tells how far it is to the nearest surface, at most. Then each step of a march
stays in front of the surface, and by induction so does the whole way that the march has covered.
All of this is in exact arithmetic; rounding can carry a ray past a surface by the error of its
steps.
-/

namespace SphereTrace.March

/-- What the scene says at a distance from the origin of the ray. -/
def clearance (scene : Vec3 ℚ → Sample ℚ) (ray : Ray ℚ) (distance : ℚ) : ℚ :=
  (scene (ray.at distance)).distance

/-- The ray starts outside, and what the scene says changes no faster than the place on the ray. -/
structure IsSafe (clearance : ℚ → ℚ) : Prop where
  start_nonneg : 0 ≤ clearance 0
  lipschitz : ∀ s t, 0 ≤ s → 0 ≤ t → |clearance s - clearance t| ≤ |s - t|

/-- There is no surface in front of a distance, and the march has not entered one. -/
structure ClearUpTo (clearance : ℚ → ℚ) (distance : ℚ) : Prop where
  distance_nonneg : 0 ≤ distance
  pos : ∀ t, 0 ≤ t → t < distance → 0 < clearance t
  nonneg : 0 ≤ clearance distance

section Clear

variable {g : ℚ → ℚ} {s t : ℚ}

theorem IsSafe.sub_le (h : IsSafe g) (hs : 0 ≤ s) (hst : s ≤ t) : g s - (t - s) ≤ g t := by
  have hchange := h.lipschitz s t hs (hs.trans hst)
  rw [abs_of_nonpos (by linarith : s - t ≤ 0)] at hchange
  have hfall := (le_abs_self _).trans hchange
  linarith

theorem IsSafe.clearUpTo_zero (h : IsSafe g) : ClearUpTo g 0 where
  distance_nonneg := le_rfl
  pos := fun _ ht hlt => absurd hlt (not_lt.mpr ht)
  nonneg := h.start_nonneg

/-- A step by what the scene says ends in front of the surface or on it. -/
theorem ClearUpTo.step (h : ClearUpTo g s) (hsafe : IsSafe g) : ClearUpTo g (s + g s) where
  distance_nonneg := add_nonneg h.distance_nonneg h.nonneg
  pos := by
    intro t ht hlt
    rcases lt_or_ge t s with hbefore | hafter
    · exact h.pos t ht hbefore
    · have hfall := hsafe.sub_le h.distance_nonneg hafter
      linarith
  nonneg := by
    have hfall := hsafe.sub_le h.distance_nonneg (le_add_of_nonneg_right h.nonneg)
    linarith

end Clear

variable {settings : Settings ℚ} {scene : Vec3 ℚ → Sample ℚ} {ray : Ray ℚ}

theorem clearUpTo_march (h : IsSafe (clearance scene ray)) (settings : Settings ℚ) :
    ClearUpTo (clearance scene ray) (march settings (fun _ => scene) ray).distance := by
  apply march_induction (motive := fun run => ClearUpTo (clearance scene ray) run.distance)
  · exact h.clearUpTo_zero
  · intro run hclear
    exact hclear.step h

/-- A march starts in front of both thresholds. -/
theorem stopped_start (hmin : 0 < settings.minDistance) (hmax : 0 < settings.maxDistance) :
    (Run.start settings).stopped settings = false := by
  rw [← Bool.not_eq_true, Run.stopped_eq_true_iff]
  rintro (hnear | hfar)
  · have hlatest : settings.minDistance * 2 < settings.minDistance := hnear
    linarith
  · have hdistance : settings.maxDistance < 0 := hfar
    linarith

/-- A march answers with minus one only when it has reached its limit. -/
theorem maxDistance_le_of_answer {run : Run ℚ} (hdistance : 0 ≤ run.distance)
    (h : (run.answer settings).distance = -1) : settings.maxDistance ≤ run.distance := by
  by_contra hless
  have hhit : (run.answer settings).distance = run.distance :=
    congrArg Sample.distance (if_pos (not_le.mp hless))
  linarith

/-- A march that has met a surface moved on, with its last sample, by less than the threshold. -/
theorem exists_last_sample (hmin : 0 < settings.minDistance) (hmax : 0 < settings.maxDistance)
    (h : IsSafe (clearance scene ray))
    (hearly : (march settings (fun _ => scene) ray).points.length < settings.steps)
    (hhit : (march settings (fun _ => scene) ray).distance < settings.maxDistance) :
    ∃ s, 0 ≤ s ∧ (march settings (fun _ => scene) ray).points.getLast? = some (ray.at s) ∧
      (march settings (fun _ => scene) ray).distance = s + clearance scene ray s ∧
      0 ≤ clearance scene ray s ∧ clearance scene ray s < settings.minDistance := by
  have hstopped := (length_points_march settings (fun _ => scene) ray).2 hearly
  rcases march_eq_start_or_step settings (fun _ => scene) ray with hmarch | ⟨steps, _, _, hmarch⟩
  · rw [hmarch, stopped_start hmin hmax] at hstopped
    cases hstopped
  · have hclear := clearUpTo_march h (settings.withSteps steps)
    generalize march (settings.withSteps steps) (fun _ => scene) ray = before at hmarch hclear
    rw [hmarch] at hhit hstopped ⊢
    refine ⟨before.distance, hclear.distance_nonneg, ?_, rfl, hclear.nonneg, ?_⟩
    · rw [Run.points_step, List.getLast?_concat]
    · rcases Run.stopped_eq_true_iff.mp hstopped with hnear | hfar
      · exact hnear
      · exact absurd hfar (lt_asymm hhit)

/-- A march in exact arithmetic through a scene that is safe along the ray. In front of the distance
that it covers there is no surface, so a ray that misses meets none up to the limit. If the march
ends within the limit without using up its budget, its last sample was taken outside, where the
scene tells less than the threshold, and the march ends as far behind that sample as it told. -/
theorem march_clear (settings : Settings ℚ) (scene : Vec3 ℚ → Sample ℚ) (ray : Ray ℚ)
    (hmin : 0 < settings.minDistance) (hmax : 0 < settings.maxDistance)
    (hsafe : IsSafe (clearance scene ray)) :
    let run := march settings (fun _ => scene) ray
    let g := clearance scene ray
    (∀ t, 0 ≤ t → t < run.distance → 0 < g t) ∧
      ((run.answer settings).distance = -1 →
        ∀ t, 0 ≤ t → t < settings.maxDistance → 0 < g t) ∧
      (run.points.length < settings.steps → run.distance < settings.maxDistance →
        ∃ s, 0 ≤ s ∧ run.points.getLast? = some (ray.at s) ∧ run.distance = s + g s ∧
          0 ≤ g s ∧ g s < settings.minDistance) := by
  intro run g
  have hclear : ClearUpTo g run.distance := clearUpTo_march hsafe settings
  refine ⟨hclear.pos, ?_, exists_last_sample hmin hmax hsafe⟩
  intro hmiss t ht hlt
  have hlimit := maxDistance_le_of_answer hclear.distance_nonneg hmiss
  exact hclear.pos t ht (hlt.trans_le hlimit)

/-- A surface at ten, of which the scene tells half of the distance. -/
theorem march_clear_plane :
    let settings : Settings ℚ := ⟨90, 1, 20⟩
    let scene : Vec3 ℚ → Sample ℚ := fun p => ⟨(10 - p.z) / 2, 3⟩
    let ray : Ray ℚ := ⟨⟨0, 0, 0⟩, ⟨0, 0, 1⟩⟩
    let run := march settings (fun _ => scene) ray
    IsSafe (clearance scene ray) ∧ run.points.length = 4 ∧ run.distance = 75 / 8 ∧
      (∀ t, 0 ≤ t → t < run.distance → 0 < clearance scene ray t) ∧
      ∃ s, run.points.getLast? = some (ray.at s) ∧ run.distance = s + clearance scene ray s ∧
        0 ≤ clearance scene ray s ∧ clearance scene ray s < 1 := by
  intro settings scene ray run
  have hscene : ∀ t, clearance scene ray t = (10 - (0 + 1 * t)) / 2 := fun _ => rfl
  have hsafe : IsSafe (clearance scene ray) := by
    constructor
    · rw [hscene]
      norm_num
    · intro s t _ _
      have hhalf : (10 - (0 + 1 * s)) / 2 - (10 - (0 + 1 * t)) / 2 = (t - s) / 2 := by ring
      rw [hscene, hscene, hhalf, abs_div, abs_sub_comm, abs_two]
      exact half_le_self (abs_nonneg _)
  have hfew : run.points.length = 4 := by decide +kernel
  have hfar : run.distance = 75 / 8 := by decide +kernel
  obtain ⟨hclear, _, hlast⟩ := march_clear settings scene ray one_pos (by norm_num [settings]) hsafe
  obtain ⟨s, _, hs⟩ := hlast (by rw [hfew]; decide) (by rw [hfar]; norm_num [settings])
  exact ⟨hsafe, hfew, hfar, hclear, s, hs⟩

end SphereTrace.March
