import SphereTrace.Binary32.Arithmetic
import SphereTrace.Vector

/-! # Scalars and the vectors over them

The marcher is written over any scalars with the four operations and an order, so that it can be
run in single precision and reasoned about in exact arithmetic. No laws are assumed: single
precision has few. Length and direction need a root and are given in single precision only.
-/

namespace SphereTrace

/-- Arithmetic and an order that can be decided. -/
class Scalar (α : Type) extends Add α, Sub α, Mul α, Div α, Neg α, LT α where
  ofNat : Nat → α
  decLT : DecidableLT α

attribute [reducible, instance] Scalar.decLT

instance : Scalar Binary32 where
  ofNat n := .ofInt n
  decLT := inferInstance

namespace Scalar

variable {α : Type} [Scalar α]

def zero : α := ofNat 0

def one : α := ofNat 1

def half : α := ofNat 1 / ofNat 2

/-- Brings a value into the range from zero to one. A value that compares with neither bound, as
a NaN does not, stays what it is. -/
def saturate (x : α) : α :=
  if x < zero then zero else if one < x then one else x

/-- The value at `t` of the line from `x` at zero to `y` at one. -/
def mix (x y t : α) : α :=
  x * (one - t) + y * t

end Scalar

namespace Vec3

variable {α : Type} [Scalar α]

instance : Add (Vec3 α) where
  add v w := ⟨v.x + w.x, v.y + w.y, v.z + w.z⟩

instance : Sub (Vec3 α) where
  sub v w := ⟨v.x - w.x, v.y - w.y, v.z - w.z⟩

/-- Each component times one factor. -/
def scale (v : Vec3 α) (t : α) : Vec3 α :=
  ⟨v.x * t, v.y * t, v.z * t⟩

def dot (v w : Vec3 α) : α :=
  v.x * w.x + v.y * w.y + v.z * w.z

def cross (v w : Vec3 α) : Vec3 α :=
  ⟨v.y * w.z - w.y * v.z, v.z * w.x - w.z * v.x, v.x * w.y - w.x * v.y⟩

def length (v : Vec3 Binary32) : Binary32 :=
  (v.dot v).sqrt

/-- The direction of a vector. There is none where the reciprocal of the length is not a positive
finite number; the answer is then the zero vector. -/
def direction (v : Vec3 Binary32) : Vec3 Binary32 :=
  let reciprocal := Scalar.one / v.length
  if reciprocal.isFinite && decide (Scalar.zero < reciprocal) then v.scale reciprocal
  else .splat Scalar.zero

end Vec3

end SphereTrace
