/-! # Data types of uniforms

The types that a uniform variable can have here: an int, a float, and the float vectors.
Matrices and samplers are not covered.
-/

namespace SphereTrace.Glsl

inductive DataType where
  | int
  | float
  | vec2
  | vec3
  | vec4
  deriving DecidableEq, Inhabited

namespace DataType

/-- The spelling in the shading language. -/
def name : DataType → String
  | int => "int"
  | float => "float"
  | vec2 => "vec2"
  | vec3 => "vec3"
  | vec4 => "vec4"

/-- The number of components. -/
def arity : DataType → Nat
  | int => 1
  | float => 1
  | vec2 => 2
  | vec3 => 3
  | vec4 => 4

/-- Reads the spelling in the shading language; no other text names a type. -/
def ofName? : String → Option DataType
  | "int" => some int
  | "float" => some float
  | "vec2" => some vec2
  | "vec3" => some vec3
  | "vec4" => some vec4
  | _ => none

theorem ofName?_name (t : DataType) : ofName? t.name = some t := by
  cases t <;> rfl

end DataType

end SphereTrace.Glsl
