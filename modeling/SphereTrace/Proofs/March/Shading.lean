import SphereTrace.March.Pixel
import SphereTrace.Proofs.Binary32.Doubling
import SphereTrace.Proofs.Fragment.Acceptance
import SphereTrace.Proofs.March.Budget

/-! # Which pixels are lit

A pixel is lit if the distance that its march has covered compares as more than minus a half and as
less than the limit; otherwise it shows the background. The scene is sampled for the march, and for
the normal only where there is something to light. A march with the constants of an accepted request
takes at least one sample, so what is lit has the material of a surface.
-/

namespace SphereTrace.March

open Scalar

variable {settings : Settings Binary32} {scene scene' : Scene Binary32} {ray : Ray Binary32}

/-- Sampling at one point after the other gives the answers of the scene there, under the numbers
that follow, and adds these points. -/
theorem run_mapM_ask {α β γ : Type} (scene : Scene α) (place : β → Vec3 α) (tell : β → Sample α → γ)
    (xs : List β) (visited : List (Vec3 α)) :
    (xs.mapM fun x => do
      let answer ← scene.ask (place x)
      return tell x answer : Sampling α (List γ)).run visited =
      (xs.mapIdx fun i x => tell x (scene (visited.length + i) (place x)),
        (xs.map place).reverse ++ visited) := by
  induction xs generalizing visited with
  | nil => rfl
  | cons x rest ih =>
      have hnumber : ∀ i, visited.length + 1 + i = visited.length + (i + 1) := by omega
      rw [List.mapM_cons]
      change Prod.map (tell x (scene visited.length (place x)) :: ·) id
        ((rest.mapM _ : Sampling α (List γ)).run (place x :: visited)) = _
      rw [ih, List.mapIdx_cons]
      simp [hnumber]

/-- The points sampled for a normal. -/
def tapPoints (point : Vec3 Binary32) : List (Vec3 Binary32) :=
  taps.map fun tap => point + tap.scale tapDistance

/-- The normal from the answers to samples around a point, which are numbered from `number` on. -/
def tapNormal (scene : Scene Binary32) (number : Nat) (point : Vec3 Binary32) : Vec3 Binary32 :=
  let terms := taps.mapIdx fun i tap =>
    tap.scale (scene (number + i) (point + tap.scale tapDistance)).distance
  (terms.foldl (· + ·) (Vec3.splat zero)).direction

theorem run_normal (scene : Scene Binary32) (point : Vec3 Binary32)
    (visited : List (Vec3 Binary32)) :
    (normal scene point).run visited =
      (tapNormal scene visited.length point, (tapPoints point).reverse ++ visited) := by
  have hterms := run_mapM_ask scene (fun tap => point + tap.scale tapDistance)
    (fun tap answer => tap.scale answer.distance) taps visited
  rw [normal, StateT.run_bind, hterms]
  rfl

/-- What the lighting is told if the march ends in a hit. -/
def Run.surface (scene : Scene Binary32) (ray : Ray Binary32) (run : Run Binary32) : Surface where
  point := ray.at run.distance
  normal := tapNormal scene run.points.length (ray.at run.distance)
  eye := ray.origin
  direction := ray.direction
  material := run.material

/-- Is the march a hit? -/
def Run.Hits (settings : Settings Binary32) (run : Run Binary32) : Prop :=
  -0.5 < run.distance ∧ run.distance < settings.maxDistance

instance (settings : Settings Binary32) (run : Run Binary32) : Decidable (run.Hits settings) :=
  inferInstanceAs (Decidable (-0.5 < run.distance ∧ run.distance < settings.maxDistance))

/-- The answer for a miss is no hit in the test of the pixel. -/
theorem hits_iff (run : Run Binary32) :
    -half < (run.answer settings).distance ↔ run.Hits settings := by
  have hhalf : -half = (-0.5 : Binary32) := by decide
  rw [hhalf, Run.Hits, Run.answer]
  split
  next hlimit => exact (and_iff_left hlimit).symm
  next hlimit =>
    have hmiss : ¬ (-0.5 : Binary32) < -one := by decide
    exact iff_of_false hmiss fun h => hlimit h.2

theorem shade_of_hits (input : PixelInput) (lighting : Lighting)
    (h : (march settings scene input.ray).Hits settings) :
    shade input settings scene lighting =
      let run := march settings scene input.ray
      let surface := run.surface scene input.ray
      ⟨lighting surface, run.points ++ tapPoints surface.point, [surface]⟩ := by
  have hanswer : (march settings scene input.ray).answer settings =
      ⟨(march settings scene input.ray).distance, (march settings scene input.ray).material⟩ :=
    if_pos h.2
  rw [shade, if_pos ((hits_iff _).mpr h), hanswer]
  simp only [run_normal, Run.length_visited, List.reverse_append, List.reverse_reverse]
  rfl

theorem shade_of_not_hits (input : PixelInput) (lighting : Lighting)
    (h : ¬ (march settings scene input.ray).Hits settings) :
    shade input settings scene lighting =
      ⟨input.background, (march settings scene input.ray).points, []⟩ := by
  rw [shade, if_neg ((hits_iff _).not.mpr h)]

/-- The normal depends on the scene at the four points sampled for it, and on nothing else. -/
theorem tapNormal_congr {number : Nat} {point : Vec3 Binary32}
    (h : ∀ i tap, (tapPoints point)[i]? = some tap →
      scene' (number + i) tap = scene (number + i) tap) :
    tapNormal scene' number point = tapNormal scene number point := by
  have hterms : (taps.mapIdx fun i tap =>
        tap.scale (scene' (number + i) (point + tap.scale tapDistance)).distance) =
      taps.mapIdx fun i tap =>
        tap.scale (scene (number + i) (point + tap.scale tapDistance)).distance := by
    rw [List.mapIdx_eq_mapIdx_iff]
    intro i hi
    have hpoint : (tapPoints point)[i]? = some (point + taps[i].scale tapDistance) := by
      rw [tapPoints, List.getElem?_map, List.getElem?_eq_getElem hi]
      rfl
    rw [h i _ hpoint]
  simp only [tapNormal, hterms]

/-- A pixel depends on the scene at the recorded samples and on the lighting of what is lit, and on
nothing else. -/
theorem shade_congr {input : PixelInput} {lighting lighting' : Lighting}
    (hscene : AgreeAt (shade input settings scene lighting).points scene scene')
    (hlight : ∀ surface ∈ (shade input settings scene lighting).lit,
      lighting' surface = lighting surface) :
    shade input settings scene' lighting' = shade input settings scene lighting := by
  by_cases hhits : (march settings scene input.ray).Hits settings
  · rw [shade_of_hits input lighting hhits] at *
    have hmarch := march_congr (hscene.of_isPrefix (List.prefix_append _ _))
    have hsurface : (march settings scene input.ray).surface scene' input.ray =
        (march settings scene input.ray).surface scene input.ray := by
      rw [Run.surface, Run.surface, tapNormal_congr]
      intro i tap htap
      apply hscene
      rw [List.getElem?_append_right (Nat.le_add_right _ _), Nat.add_sub_cancel_left]
      exact htap
    have hcolour : lighting' ((march settings scene input.ray).surface scene input.ray) =
        lighting ((march settings scene input.ray).surface scene input.ray) :=
      hlight _ List.mem_cons_self
    rw [shade_of_hits input lighting' (hmarch ▸ hhits), hmarch]
    simp only [hsurface, hcolour]
  · rw [shade_of_not_hits input lighting hhits] at *
    have hmarch := march_congr hscene
    rw [shade_of_not_hits input lighting' (hmarch ▸ hhits), hmarch]

/-- The constants of an accepted request leave the start of a march in front of both thresholds. -/
theorem stopped_start_ofRequest {request : Fragment.Request} (h : request.Marches) :
    (Run.start (Settings.ofRequest request)).stopped (Settings.ofRequest request) = false := by
  rw [← Bool.not_eq_true, Run.stopped_eq_true_iff]
  rintro (hnear | hfar)
  · exact Binary32.not_mul_two_lt h.min_finite h.min_pos hnear
  · exact Binary32.lt_asymm (Binary32.lt_trans h.min_pos h.min_lt_max) hfar

theorem points_march_ofRequest_ne_nil {request : Fragment.Request}
    (h : request.validate = .ok ()) (scene : Scene Binary32) (ray : Ray Binary32) :
    (march (Settings.ofRequest request) scene ray).points ≠ [] := by
  have hmarches := (Fragment.Request.fault?_eq_none_iff.mp
    (Fragment.Request.validate_eq_ok_iff.mp h)).2.1
  exact points_march_ne_nil (stopped_start_ofRequest hmarches) hmarches.steps_pos

/-- A march samples within its budget, adds up the distances and keeps the material of its last
sample, or minus one without any. The pixel is lit exactly if the distance is more than minus a half
and less than the limit, which no NaN is. Then the scene is sampled four more times, in the corners
of a tetrahedron around the point at the distance, and the lighting is told of the point, the normal
that these four answers give, the eye, the direction and the material; else the pixel has its
background, and nothing more is sampled. No other sample and no other call of the lighting has any
effect. With the constants of an accepted request there is a last sample, and its material is the
one that is lit. -/
theorem shade_hit_or_miss (input : PixelInput) (settings : Settings Binary32)
    (scene : Scene Binary32) (lighting : Lighting) :
    let ray := input.ray
    let run := march settings scene ray
    let n := run.points.length
    let point := ray.at run.distance
    let around (v : Vec3 Binary32) := point + v.scale 0.002
    let term (i : Nat) (v : Vec3 Binary32) := v.scale (scene (n + i) (around v)).distance
    let normal := (Vec3.splat 0 + term 0 ⟨1, -1, -1⟩ + term 1 ⟨-1, -1, 1⟩ + term 2 ⟨-1, 1, -1⟩ +
      term 3 ⟨1, 1, 1⟩).direction
    let surface : Surface := ⟨point, normal, input.eye, ray.direction, run.material⟩
    let hit := -0.5 < run.distance ∧ run.distance < settings.maxDistance
    let pixel := shade input settings scene lighting
    n ≤ settings.steps ∧
      run.distance = (run.answers scene).foldl (· + ·) 0 ∧ (n = 0 → run.material = -1) ∧
      (∀ last, run.points.getLast? = some last →
        run.material = (scene (n - 1) last).material) ∧
      (pixel.lit ≠ [] ↔ hit) ∧ (run.distance.isNaN = true → pixel.lit = []) ∧
      (hit →
        pixel = ⟨lighting surface, run.points ++ [around ⟨1, -1, -1⟩, around ⟨-1, -1, 1⟩,
          around ⟨-1, 1, -1⟩, around ⟨1, 1, 1⟩], [surface]⟩ ∧
        pixel.points.length = n + 4) ∧
      (¬ hit → pixel = ⟨input.background, run.points, []⟩ ∧ pixel.points.length = n) ∧
      (∀ scene' lighting', AgreeAt pixel.points scene scene' →
        (∀ lit ∈ pixel.lit, lighting' lit = lighting lit) →
        shade input settings scene' lighting' = pixel) ∧
      ∀ request : Fragment.Request, request.validate = .ok () →
        settings = Settings.ofRequest request →
        1 ≤ n ∧ ∃ last, run.points.getLast? = some last ∧
          ∀ lit ∈ pixel.lit, lit.material = (scene (n - 1) last).material := by
  intro ray run n point around term normal surface hit pixel
  obtain ⟨hbound, _⟩ := length_points_march settings scene ray
  obtain ⟨hnone, hmaterial⟩ := material_march settings scene ray
  have htaps : taps = [⟨1, -1, -1⟩, ⟨-1, -1, 1⟩, ⟨-1, 1, -1⟩, ⟨1, 1, 1⟩] := by decide
  have hpoints : tapPoints point =
      [around ⟨1, -1, -1⟩, around ⟨-1, -1, 1⟩, around ⟨-1, 1, -1⟩, around ⟨1, 1, 1⟩] := by
    rw [tapPoints, htaps]
    rfl
  have hnormal : tapNormal scene n point = normal := by
    rw [tapNormal, htaps]
    rfl
  have hlit : hit → pixel = ⟨lighting surface, run.points ++ [around ⟨1, -1, -1⟩,
      around ⟨-1, -1, 1⟩, around ⟨-1, 1, -1⟩, around ⟨1, 1, 1⟩], [surface]⟩ := by
    intro h
    have hpixel : pixel = _ := shade_of_hits input lighting h
    rw [hpixel, ← hpoints]
    simp only [surface, ← hnormal]
    rfl
  have hdark : ¬ hit → pixel = ⟨input.background, run.points, []⟩ :=
    fun h => shade_of_not_hits input lighting h
  refine ⟨hbound, distance_march settings scene ray, hnone, hmaterial, ?_, ?_, ?_, ?_, ?_, ?_⟩
  · by_cases h : hit
    · simp [hlit h, h]
    · simp [hdark h, h]
  · intro hnan
    have hmiss : ¬ hit := fun h => by simp [h.2.1] at hnan
    rw [hdark hmiss]
  · intro h
    refine ⟨hlit h, ?_⟩
    rw [hlit h, List.length_append]
    rfl
  · intro h
    refine ⟨hdark h, ?_⟩
    rw [hdark h]
  · intro scene' lighting' hscene hlight
    exact shade_congr hscene hlight
  · intro request hvalid hsettings
    have hsome : run.points ≠ [] := by
      simp only [run, hsettings]
      exact points_march_ofRequest_ne_nil hvalid scene ray
    refine ⟨List.length_pos_iff.mpr hsome, run.points.getLast hsome,
      List.getLast?_eq_some_getLast hsome, ?_⟩
    intro lit hmem
    have hhit : hit := by
      by_contra h
      rw [hdark h] at hmem
      cases hmem
    rw [hlit hhit] at hmem
    rw [List.mem_singleton.mp hmem]
    exact hmaterial _ (List.getLast?_eq_some_getLast hsome)

/-- A ball in front of the eye, and the same ball behind it. -/
theorem shade_hit_or_miss_ball :
    let request := Fragment.Request.ofScene "vec2( 1. )"
    let settings := Settings.ofRequest request
    let ball : Scene Binary32 := fun _ p => ⟨p.length - 1, 2⟩
    let white : Lighting := fun _ => ⟨1, 1, 1⟩
    let facing : PixelInput := ⟨⟨0.5, 0.5⟩, ⟨640, 480⟩, ⟨0, 0, 5⟩, ⟨0, 0, 0⟩, ⟨0, 0, 0⟩⟩
    let away : PixelInput := { facing with target := ⟨0, 0, 10⟩ }
    request.validate = .ok () ∧
      (shade facing settings ball white).colour = ⟨1, 1, 1⟩ ∧
      (shade facing settings ball white).points.length = 6 ∧
      (∀ lit ∈ (shade facing settings ball white).lit, lit.material = 2) ∧
      (shade away settings ball white).colour = ⟨0, 0, 0⟩ ∧
      (shade away settings ball white).points.length = 3 := by
  intro request settings ball white facing away
  have hvalid : request.validate = .ok () :=
    Fragment.Request.validate_eq_ok_iff.mpr (by decide +kernel)
  obtain ⟨_, _, _, _, _, _, hlit, _, _, hrequest⟩ := shade_hit_or_miss facing settings ball white
  obtain ⟨_, _, _, _, _, _, _, hdark, _, _⟩ := shade_hit_or_miss away settings ball white
  obtain ⟨_, last, _, hmaterial⟩ := hrequest request hvalid rfl
  obtain ⟨hpixel, hsamples⟩ := hlit (by decide +kernel)
  obtain ⟨hempty, hfew⟩ := hdark (by decide +kernel)
  have hfront : (march settings ball facing.ray).points.length = 2 := by decide +kernel
  have hback : (march settings ball away.ray).points.length = 3 := by decide +kernel
  refine ⟨hvalid, ?_, ?_, hmaterial, ?_, ?_⟩
  · rw [hpixel]
  · rw [hsamples, hfront]
  · rw [hempty]
  · rw [hfew, hback]

end SphereTrace.March
