import SphereTrace.Glsl.DataType
import SphereTrace.Glsl.Literal
import SphereTrace.Vector

/-! # Values of uniforms

A value carries its type. One number fills every component of any type, which is how scalars are
spread over vectors; several numbers have to be as many as the type has components.
-/

namespace SphereTrace.Glsl

inductive Value where
  | int (n : Int32)
  | float (x : Binary32)
  | vec2 (v : Vec2 Binary32)
  | vec3 (v : Vec3 Binary32)
  | vec4 (v : Vec4 Binary32)
  deriving DecidableEq

namespace Value

def dataType : Value → DataType
  | int _ => .int
  | float _ => .float
  | vec2 _ => .vec2
  | vec3 _ => .vec3
  | vec4 _ => .vec4

/-- Fills every component with one number; an int takes its whole part. -/
def broadcast : DataType → Binary32 → Value
  | .int, x => int x.toInt32
  | .float, x => float x
  | .vec2, x => vec2 (.splat x)
  | .vec3, x => vec3 (.splat x)
  | .vec4, x => vec4 (.splat x)

/-- The value with zero in every component. -/
def zero (t : DataType) : Value :=
  broadcast t (.zero false)

/-- A value from a list of components: a single one fills the type, several have to match its
number of components. -/
def ofComponents? : DataType → List Binary32 → Option Value
  | t, [x] => some (broadcast t x)
  | .vec2, [x, y] => some (vec2 ⟨x, y⟩)
  | .vec3, [x, y, z] => some (vec3 ⟨x, y, z⟩)
  | .vec4, [x, y, z, w] => some (vec4 ⟨x, y, z, w⟩)
  | _, _ => none

/-- The value as a constant of the shading language. -/
def literal : Value → String
  | int n => intLiteral n
  | float x => floatLiteral x
  | vec2 v => vectorLiteral v.toList
  | vec3 v => vectorLiteral v.toList
  | vec4 v => vectorLiteral v.toList

@[simp]
theorem dataType_broadcast (t : DataType) (x : Binary32) : (broadcast t x).dataType = t := by
  cases t <;> rfl

end Value

end SphereTrace.Glsl
