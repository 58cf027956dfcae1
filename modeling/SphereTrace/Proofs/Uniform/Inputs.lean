import SphereTrace.Proofs.Texture.Making

/-! # What inputs resolve to

A vector fits one type only, the one with its number of components, and a number fits them all.
What an input resolves to is told component by component, and a value that is read can always be put
back.
-/

namespace SphereTrace

open Glsl (DataType Value)

namespace Glsl.Value

/-- The float components of a value; an int has none. -/
def floats : Value → List Binary32
  | int _ => []
  | float x => [x]
  | vec2 v => v.toList
  | vec3 v => v.toList
  | vec4 v => v.toList

/-- A number that fills a value is in all its components. -/
theorem eq_of_mem_floats_broadcast {type : DataType} {x y : Binary32}
    (h : y ∈ (broadcast type x).floats) : y = x := by
  cases type with
  | int => cases h
  | _ =>
      simpa [broadcast, floats, Vec2.splat, Vec3.splat, Vec4.splat, Vec2.toList, Vec3.toList,
        Vec4.toList] using h

end Glsl.Value

namespace Input

/-- The components of a vector; numbers are no vectors. -/
def vector? : Input → Option (List Binary32)
  | scalar _ | int _ => none
  | vec2 v => some v.toList
  | vec3 v => some v.toList
  | vec4 v => some v.toList

/-- The input is a vector with another number of components than the type has. -/
def Misfits (input : Input) (type : DataType) : Prop :=
  ∃ components, input.vector? = some components ∧ components.length ≠ type.arity

/-- The value has the components of the vector, or has the number in every component. A number is
the nearest float in a float, and a float is cut to its whole part in an int. -/
def Fills : Input → Value → Prop
  | int n, .int m => m = n
  | int n, v => ∀ x ∈ v.floats, x = .ofInt n.toInt
  | scalar x, .int m => m = x.toInt32
  | scalar x, v => ∀ y ∈ v.floats, y = x
  | vec2 w, v => v.floats = w.toList
  | vec3 w, v => v.floats = w.toList
  | vec4 w, v => v.floats = w.toList

variable {input : Input} {type : DataType} {v : Value}

theorem resolve?_eq_none_iff : input.resolve? type = none ↔ input.Misfits type := by
  cases input <;> cases type <;>
    simp [resolve?, Misfits, vector?, DataType.arity, Vec2.toList, Vec3.toList, Vec4.toList]

theorem fills_of_resolve? (h : input.resolve? type = some v) : input.Fills v := by
  cases input with
  | int n =>
      cases type <;> obtain rfl := Option.some.inj h
      · rfl
      all_goals exact fun _ hx => Value.eq_of_mem_floats_broadcast hx
  | scalar x =>
      cases type <;> obtain rfl := Option.some.inj h
      · rfl
      all_goals exact fun _ hy => Value.eq_of_mem_floats_broadcast hy
  | vec2 w => cases type <;> cases h; rfl
  | vec3 w => cases type <;> cases h; rfl
  | vec4 w => cases type <;> cases h; rfl

/-- A value is an input that resolves to itself at its own type. -/
theorem resolve?_ofValue (v : Value) : (ofValue v).resolve? v.dataType = some v := by
  cases v <;> rfl

end Input

end SphereTrace
