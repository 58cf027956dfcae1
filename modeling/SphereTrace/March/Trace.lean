import SphereTrace.March.Blend

/-! # Marching along a ray

A march samples the scene, moves on by the distance it was told, and stops at a distance below the
hit threshold, beyond the limit, or when its budget is used up. Whoever samples keeps the points at
which it did, so that what was asked can be told from what was answered.
-/

namespace SphereTrace.March

/-- A scene answers at a point; the answer may also depend on how many samples were taken before
it. -/
abbrev Scene (α : Type) :=
  Nat → Vec3 α → Sample α

/-- What samples a scene passes on the points sampled so far, the last one first. -/
abbrev Sampling (α β : Type) :=
  StateM (List (Vec3 α)) β

/-- One sample. A scene is sampled in no other way, and nothing else adds to the points. -/
def Scene.ask {α : Type} (scene : Scene α) (point : Vec3 α) : Sampling α (Sample α) :=
  fun visited => (scene visited.length point, point :: visited)

structure Settings (α : Type) where
  steps : Nat
  minDistance : α
  maxDistance : α

structure Ray (α : Type) where
  origin : Vec3 α
  direction : Vec3 α

variable {α : Type} [Scalar α]

/-- The point at a distance. -/
def Ray.at (ray : Ray α) (distance : α) : Vec3 α :=
  ray.origin + ray.direction.scale distance

/-- A march under way: the distance covered, the last answer, and the points sampled so far, the
last one first. -/
structure Run (α : Type) where
  distance : α
  latest : α
  material : α
  visited : List (Vec3 α)

namespace Run

/-- Before the first sample. The answer so far counts as no hit. -/
def start (settings : Settings α) : Run α where
  distance := Scalar.zero
  latest := settings.minDistance * Scalar.ofNat 2
  material := -Scalar.one
  visited := []

/-- Is a surface reached, or the limit passed? -/
def stopped (settings : Settings α) (run : Run α) : Bool :=
  decide (run.latest < settings.minDistance) || decide (settings.maxDistance < run.distance)

/-- One sample, and the way that it tells is free. -/
def step (scene : Scene α) (ray : Ray α) (run : Run α) : Run α :=
  let (answer, visited) := (scene.ask (ray.at run.distance)).run run.visited
  { distance := run.distance + answer.distance
    latest := answer.distance
    material := answer.material
    visited }

/-- At most `budget` further samples. -/
def advance (settings : Settings α) (scene : Scene α) (ray : Ray α) : (budget : Nat) → Run α → Run α
  | 0, run => run
  | budget + 1, run =>
    if run.stopped settings then run
    else advance settings scene ray budget (run.step scene ray)

/-- The points sampled, in order. -/
def points (run : Run α) : List (Vec3 α) :=
  run.visited.reverse

/-- The distance and material of a hit, and minus one for both where the limit is reached. -/
def answer (settings : Settings α) (run : Run α) : Sample α :=
  if run.distance < settings.maxDistance then ⟨run.distance, run.material⟩
  else ⟨-Scalar.one, -Scalar.one⟩

end Run

/-- The whole march along a ray. -/
def march (settings : Settings α) (scene : Scene α) (ray : Ray α) : Run α :=
  Run.advance settings scene ray settings.steps (Run.start settings)

end SphereTrace.March
