import SphereTrace.March.Scalar

/-! # Samples of a scene and their blend

A scene answers with the distance to the nearest surface and the material of that surface. Two
answers are blended smoothly: within a band of width `k` around equal distances the result dips
below both, and the material moves over while the second surface gets closer than the first.
-/

namespace SphereTrace.March

structure Sample (α : Type) where
  distance : α
  material : α
  deriving DecidableEq

variable {α : Type} [Scalar α]

open Scalar

/-- The polynomial smooth minimum. -/
def smoothMin (a b k : α) : α :=
  let h := saturate (half + half * (b - a) / k)
  mix b a h - k * h * (one - h)

/-- The smooth minimum of two samples. At equal distances the material is that of the first. -/
def Sample.smoothMin (a b : Sample α) (k : α) : Sample α where
  distance := March.smoothMin a.distance b.distance k
  material := mix a.material b.material (saturate ((a.distance - b.distance) / k))

end SphereTrace.March
