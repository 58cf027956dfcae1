/-! # Vectors of two, three and four components

Plain records over any component type. Arithmetic on them is not here: parameters only store
vectors, and the marcher brings its own operations.
-/

namespace SphereTrace

structure Vec2 (α : Type) where
  x : α
  y : α
  deriving DecidableEq, Inhabited

structure Vec3 (α : Type) where
  x : α
  y : α
  z : α
  deriving DecidableEq, Inhabited

structure Vec4 (α : Type) where
  x : α
  y : α
  z : α
  w : α
  deriving DecidableEq, Inhabited

variable {α : Type}

namespace Vec2

/-- The vector with the same value in each component. -/
def splat (a : α) : Vec2 α := ⟨a, a⟩

def toList (v : Vec2 α) : List α := [v.x, v.y]

end Vec2

namespace Vec3

/-- The vector with the same value in each component. -/
def splat (a : α) : Vec3 α := ⟨a, a, a⟩

def toList (v : Vec3 α) : List α := [v.x, v.y, v.z]

end Vec3

namespace Vec4

/-- The vector with the same value in each component. -/
def splat (a : α) : Vec4 α := ⟨a, a, a, a⟩

def toList (v : Vec4 α) : List α := [v.x, v.y, v.z, v.w]

end Vec4

end SphereTrace
