import SphereTrace.Glsl.Value

/-! # Caller inputs for parameters

What a caller hands in for a parameter, before the parameter's type is known. Numbers fill
whatever type they meet; a vector only fits the type with its number of components.
-/

namespace SphereTrace

open Glsl (DataType Value)

inductive Input where
  | scalar (x : Binary32)
  | int (n : Int32)
  | vec2 (v : Vec2 Binary32)
  | vec3 (v : Vec3 Binary32)
  | vec4 (v : Vec4 Binary32)
  deriving DecidableEq

namespace Input

/-- The type that an input has by itself, which error messages name. -/
def dataType : Input → DataType
  | scalar _ => .float
  | int _ => .int
  | vec2 _ => .vec2
  | vec3 _ => .vec3
  | vec4 _ => .vec4

/-- The input as a value of a type. An int stays exact in an int and is otherwise the nearest
float in every component. -/
def resolve? : Input → DataType → Option Value
  | int n, .int => some (.int n)
  | int n, t => some (Value.broadcast t (.ofInt n.toInt))
  | scalar x, t => some (Value.broadcast t x)
  | vec2 v, .vec2 => some (.vec2 v)
  | vec3 v, .vec3 => some (.vec3 v)
  | vec4 v, .vec4 => some (.vec4 v)
  | _, _ => none

/-- A stored value is an input for a parameter of its own type. -/
def ofValue : Value → Input
  | .int n => int n
  | .float x => scalar x
  | .vec2 v => vec2 v
  | .vec3 v => vec3 v
  | .vec4 v => vec4 v

end Input

instance : Coe Binary32 Input := ⟨.scalar⟩
instance : Coe Int32 Input := ⟨.int⟩
instance : Coe (Vec2 Binary32) Input := ⟨.vec2⟩
instance : Coe (Vec3 Binary32) Input := ⟨.vec3⟩
instance : Coe (Vec4 Binary32) Input := ⟨.vec4⟩
instance : Coe Value Input := ⟨.ofValue⟩

end SphereTrace
