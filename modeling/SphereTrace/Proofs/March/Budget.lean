import SphereTrace.March.Trace

/-! # Marches with different budgets

A larger budget only adds samples at the end of a march, and adds none once the march has stopped.
So a march is known by its last sample and the march before it, and what each sample keeps holds at
the end of every march.
-/

namespace SphereTrace.March

variable {α : Type} [Scalar α]

/-- The same thresholds with another budget. -/
def Settings.withSteps (settings : Settings α) (steps : Nat) : Settings α :=
  { settings with steps }

variable {settings : Settings α} {scene scene' : Scene α} {ray : Ray α}

namespace Run

variable {run : Run α}

theorem stopped_eq_true_iff : run.stopped settings = true ↔
    run.latest < settings.minDistance ∨ settings.maxDistance < run.distance := by
  rw [stopped, Bool.or_eq_true, decide_eq_true_eq, decide_eq_true_eq]

theorem advance_of_stopped (h : run.stopped settings = true) (budget : Nat) :
    advance settings scene ray budget run = run := by
  cases budget with
  | zero => rfl
  | succ budget => rw [advance, if_pos h]

/-- One more sample in the budget is one more sample at the end, unless the march has stopped. -/
theorem advance_succ (budget : Nat) (run : Run α) :
    advance settings scene ray (budget + 1) run =
      let reached := advance settings scene ray budget run
      if reached.stopped settings then reached else reached.step scene ray := by
  induction budget generalizing run with
  | zero => rfl
  | succ budget ih =>
      by_cases hstopped : run.stopped settings = true
      · simp only [advance_of_stopped hstopped, if_pos hstopped]
      · rw [advance, if_neg hstopped, ih]
        simp only [advance, if_neg hstopped]

/-- The budget is counted apart; of the settings only the thresholds matter under way. -/
theorem advance_withSteps (steps budget : Nat) (run : Run α) :
    advance (settings.withSteps steps) scene ray budget run =
      advance settings scene ray budget run := by
  induction budget generalizing run with
  | zero => rfl
  | succ budget ih =>
      simp only [advance, ih]
      rfl

omit [Scalar α] in
theorem length_visited (run : Run α) : run.visited.length = run.points.length :=
  List.length_reverse.symm

/-- What a sample does to a march. -/
theorem step_eq (run : Run α) (scene : Scene α) (ray : Ray α) :
    run.step scene ray =
      let answer := scene run.points.length (ray.at run.distance)
      { distance := run.distance + answer.distance
        latest := answer.distance
        material := answer.material
        visited := ray.at run.distance :: run.visited } := by
  rw [← length_visited]
  rfl

@[simp]
theorem points_step (run : Run α) (scene : Scene α) (ray : Ray α) :
    (run.step scene ray).points = run.points ++ [ray.at run.distance] := by
  simp [points, step_eq]

/-- The distances that the scene tells at the samples of a run, in order. -/
def answers (scene : Scene α) (run : Run α) : List α :=
  run.points.zipIdx.map fun sample => (scene sample.2 sample.1).distance

theorem answers_step (run : Run α) (scene : Scene α) (ray : Ray α) :
    (run.step scene ray).answers scene =
      run.answers scene ++ [(scene run.points.length (ray.at run.distance)).distance] := by
  simp [answers, List.zipIdx_append]

theorem step_congr (h : scene' run.points.length (ray.at run.distance) =
    scene run.points.length (ray.at run.distance)) : run.step scene' ray = run.step scene ray := by
  simp only [step_eq, h]

@[simp]
theorem points_start : (start settings).points = [] := rfl

end Run

theorem march_succ (settings : Settings α) (scene : Scene α) (ray : Ray α) (steps : Nat) :
    march (settings.withSteps (steps + 1)) scene ray =
      let reached := march (settings.withSteps steps) scene ray
      if reached.stopped settings then reached else reached.step scene ray := by
  have hmarch : ∀ steps, march (settings.withSteps steps) scene ray =
      Run.advance settings scene ray steps (Run.start settings) :=
    fun steps => Run.advance_withSteps steps steps (Run.start settings)
  rw [hmarch, hmarch, Run.advance_succ]

/-- A march that samples less often than it may has stopped. -/
theorem length_points_march (settings : Settings α) (scene : Scene α) (ray : Ray α) :
    (march settings scene ray).points.length ≤ settings.steps ∧
      ((march settings scene ray).points.length < settings.steps →
        (march settings scene ray).stopped settings = true) := by
  suffices h : ∀ steps, let run := march (settings.withSteps steps) scene ray
      run.points.length ≤ steps ∧ (run.points.length < steps → run.stopped settings = true) from
    h settings.steps
  intro steps
  induction steps with
  | zero => exact ⟨Nat.le_refl 0, fun h => absurd h (Nat.not_lt_zero _)⟩
  | succ steps ih =>
      intro run
      obtain ⟨hle, hstops⟩ := ih
      simp only [run, march_succ]
      split
      next hstopped => exact ⟨Nat.le_succ_of_le hle, fun _ => hstopped⟩
      next hgoes =>
        have hfull : ¬ (march (settings.withSteps steps) scene ray).points.length < steps :=
          fun h => hgoes (hstops h)
        rw [Run.points_step, List.length_append, List.length_singleton]
        exact ⟨by omega, fun h => by omega⟩

/-- One more sample in the budget: either the march had stopped, or it had used its whole budget and
goes on. -/
theorem march_succ_cases (settings : Settings α) (scene : Scene α) (ray : Ray α) (steps : Nat) :
    let before := march (settings.withSteps steps) scene ray
    let after := march (settings.withSteps (steps + 1)) scene ray
    (before.stopped settings = true ∧ after = before) ∨
      (before.stopped settings = false ∧ before.points.length = steps ∧
        after = before.step scene ray) := by
  intro before after
  have hafter : after = _ := march_succ settings scene ray steps
  obtain ⟨hle, hstops⟩ := length_points_march (settings.withSteps steps) scene ray
  cases hstopped : before.stopped settings with
  | true => exact .inl ⟨rfl, by rw [hafter]; exact if_pos hstopped⟩
  | false =>
      have hgoes : ¬ before.stopped settings = true := by simp [hstopped]
      have hfull : before.points.length = steps :=
        Nat.le_antisymm hle (Nat.not_lt.mp fun h => hgoes (hstops h))
      exact .inr ⟨rfl, hfull, by rw [hafter]; exact if_neg hgoes⟩

/-- A march that has sampled is the march with the budget for all its samples but one, and that
one. -/
theorem march_eq_start_or_step (settings : Settings α) (scene : Scene α) (ray : Ray α) :
    march settings scene ray = Run.start settings ∨
      ∃ steps, let before := march (settings.withSteps steps) scene ray
        before.stopped settings = false ∧ before.points.length = steps ∧
          march settings scene ray = before.step scene ray := by
  suffices h : ∀ steps, march (settings.withSteps steps) scene ray = Run.start settings ∨
      ∃ fewer, let before := march (settings.withSteps fewer) scene ray
        before.stopped settings = false ∧ before.points.length = fewer ∧
          march (settings.withSteps steps) scene ray = before.step scene ray from
    h settings.steps
  intro steps
  induction steps with
  | zero => exact .inl rfl
  | succ steps ih =>
      rcases march_succ_cases settings scene ray steps with ⟨_, hsame⟩ | ⟨hgoes, hfull, hstep⟩
      · rw [hsame]
        exact ih
      · exact .inr ⟨steps, hgoes, hfull, hstep⟩

/-- What holds in front of the first sample and is kept by every sample holds of the march. -/
theorem march_induction {motive : Run α → Prop} (hstart : motive (Run.start settings))
    (hstep : ∀ run, motive run → motive (run.step scene ray)) :
    motive (march settings scene ray) := by
  suffices h : ∀ steps, motive (march (settings.withSteps steps) scene ray) from h settings.steps
  intro steps
  induction steps with
  | zero => exact hstart
  | succ steps ih =>
      rcases march_succ_cases settings scene ray steps with ⟨_, hsame⟩ | ⟨_, _, hnext⟩
      · rw [hsame]
        exact ih
      · rw [hnext]
        exact hstep _ ih

/-- A march that may sample and has not stopped at its start does sample. -/
theorem points_march_ne_nil (hstart : (Run.start settings).stopped settings = false)
    (hsteps : 0 < settings.steps) : (march settings scene ray).points ≠ [] := by
  intro hnone
  rcases march_eq_start_or_step settings scene ray with hmarch | ⟨steps, _, _, hmarch⟩
  · have hstopped := (length_points_march settings scene ray).2 (by rw [hnone]; exact hsteps)
    rw [hmarch, hstart] at hstopped
    cases hstopped
  · rw [hmarch, Run.points_step] at hnone
    exact List.append_ne_nil_of_right_ne_nil _ (List.cons_ne_nil _ _) hnone

/-- The material is that of the last sample, and minus one without any. -/
theorem material_march (settings : Settings α) (scene : Scene α) (ray : Ray α) :
    let run := march settings scene ray
    (run.points.length = 0 → run.material = -Scalar.one) ∧
      ∀ last, run.points.getLast? = some last →
        run.material = (scene (run.points.length - 1) last).material := by
  intro run
  rcases march_eq_start_or_step settings scene ray with hmarch | ⟨_, _, _, hmarch⟩
  · have hrun : run = Run.start settings := hmarch
    rw [hrun]
    exact ⟨fun _ => rfl, fun last h => by simp at h⟩
  · have hrun : run = _ := hmarch
    rw [hrun, Run.points_step, List.length_append, List.length_singleton, Nat.add_sub_cancel,
      List.getLast?_concat]
    refine ⟨fun h => by omega, ?_⟩
    intro last hlast
    rw [← Option.some.inj hlast, Run.step_eq]

/-- The distance is what the answers add up to, in order. -/
theorem distance_march (settings : Settings α) (scene : Scene α) (ray : Ray α) :
    (march settings scene ray).distance =
      ((march settings scene ray).answers scene).foldl (· + ·) Scalar.zero := by
  apply march_induction (motive := fun run : Run α =>
    run.distance = (run.answers scene).foldl (· + ·) Scalar.zero)
  · rfl
  · intro run hsum
    rw [Run.answers_step, List.foldl_append, ← hsum, Run.step_eq]
    rfl

/-- A march that has stopped stays as it is. -/
theorem march_of_stopped {few many : Nat} (hle : few ≤ many)
    (h : (march (settings.withSteps few) scene ray).stopped settings = true) :
    march (settings.withSteps many) scene ray = march (settings.withSteps few) scene ray := by
  induction hle with
  | refl => rfl
  | @step many _ ih =>
      rw [march_succ, ih]
      exact if_pos h

theorem isPrefix_points {few many : Nat} (hle : few ≤ many) :
    (march (settings.withSteps few) scene ray).points <+:
      (march (settings.withSteps many) scene ray).points := by
  induction hle with
  | refl => exact List.prefix_rfl
  | @step many _ ih =>
      rcases march_succ_cases settings scene ray many with ⟨_, hsame⟩ | ⟨_, _, hnext⟩
      · rw [hsame]
        exact ih
      · rw [hnext, Run.points_step]
        exact ih.trans (List.prefix_append _ _)

/-- The second scene answers like the first to the samples at the points, which are numbered in
order. -/
def AgreeAt (points : List (Vec3 α)) (scene scene' : Scene α) : Prop :=
  ∀ number point, points[number]? = some point → scene' number point = scene number point

omit [Scalar α] in
theorem AgreeAt.of_isPrefix {points more : List (Vec3 α)} (h : AgreeAt more scene scene')
    (hearlier : points <+: more) : AgreeAt points scene scene' := by
  intro number point hpoint
  obtain ⟨rest, rfl⟩ := hearlier
  obtain ⟨hlt, _⟩ := List.getElem?_eq_some_iff.mp hpoint
  exact h number point ((List.getElem?_append_left hlt).trans hpoint)

/-- A march asks the scene nothing but what it keeps a record of. -/
theorem march_congr (h : AgreeAt (march settings scene ray).points scene scene') :
    march settings scene' ray = march settings scene ray := by
  suffices hall : ∀ steps,
      AgreeAt (march (settings.withSteps steps) scene ray).points scene scene' →
      march (settings.withSteps steps) scene' ray = march (settings.withSteps steps) scene ray from
    hall settings.steps h
  intro steps hagree
  -- Up to the last sample the marches are the same, so they ask for the last one at the same point.
  induction steps with
  | zero => rfl
  | succ steps ih =>
      rw [march_succ, ih (hagree.of_isPrefix (isPrefix_points (Nat.le_succ steps)))]
      rcases march_succ_cases settings scene ray steps with
        ⟨hstopped, hsame⟩ | ⟨hgoes, _, hnext⟩
      · rw [hsame]
        exact if_pos hstopped
      · rw [hnext, Run.points_step] at hagree
        have hlast := hagree _ _ List.getElem?_concat_length
        rw [hnext, ← Run.step_congr hlast]
        exact if_neg (by simp [hgoes])

/-- The samples of a march are, in order, the first samples of the same march with a larger budget,
and no more than the budget allows. If the march did not use up its budget, the larger one changes
neither the samples nor the answer. The numbers may be of any kind, so this does not rest on any law
of arithmetic. -/
theorem march_budget (settings : Settings α) (scene : Scene α) (ray : Ray α) {few many : Nat}
    (hle : few ≤ many) :
    let short := march (settings.withSteps few) scene ray
    let long := march (settings.withSteps many) scene ray
    short.points <+: long.points ∧ short.points.length ≤ few ∧
      (short.points.length < few →
        long.points = short.points ∧
          long.answer (settings.withSteps many) = short.answer (settings.withSteps few)) := by
  intro short long
  obtain ⟨hbound, hstops⟩ := length_points_march (settings.withSteps few) scene ray
  refine ⟨isPrefix_points hle, hbound, ?_⟩
  intro hearly
  have hsame : long = short := march_of_stopped hle (hstops hearly)
  rw [hsame]
  exact ⟨rfl, rfl⟩

/-- A surface at distance one, met with the second of three samples, under a limit that is no
number. -/
theorem march_budget_surface :
    let settings : Settings Binary32 := ⟨0, 0.001, .nan⟩
    let scene : Scene Binary32 := fun number _ => if number = 0 then ⟨1, 2⟩ else ⟨0, 3⟩
    let ray : Ray Binary32 := ⟨⟨0, 0, -5⟩, ⟨0, 0, 1⟩⟩
    let short := march (settings.withSteps 3) scene ray
    let long := march (settings.withSteps 7) scene ray
    3 ≤ 7 ∧ short.points.length = 2 ∧ short.points <+: long.points ∧
      long.points = short.points ∧
      long.answer (settings.withSteps 7) = short.answer (settings.withSteps 3) := by
  intro settings scene ray short long
  have hfew : short.points.length = 2 := by decide
  obtain ⟨hearlier, _, hsame⟩ := march_budget settings scene ray (show 3 ≤ 7 by decide)
  exact ⟨by decide, hfew, hearlier, hsame (by rw [hfew]; decide)⟩

end SphereTrace.March
