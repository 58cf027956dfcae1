import SphereTrace.Decimal.Layout

/-! # Constants of the shading language

A float constant has to show a fraction or an exponent, because a bare digit string is an int.
Values without a constant (NaN and the infinities) are written as `0.0`.
-/

namespace SphereTrace.Glsl

/-- Floats are written positionally from `0.0001` up to, but not including, `1e16`. -/
def positionalRange : Decimal.PositionalRange where
  least := -3
  greatest := 16

/-- A float constant: the fewest digits that read back. -/
def floatLiteral (x : Binary32) : String :=
  if x.isFinite then positionalRange.render x else "0.0"

/-- An int constant, in decimal. -/
def intLiteral (n : Int32) : String :=
  toString n.toInt

/-- A vector constructor, named for its number of components. -/
def vectorLiteral (components : List Binary32) : String :=
  "vec" ++ toString components.length ++
    "(" ++ ", ".intercalate (components.map floatLiteral) ++ ")"

end SphereTrace.Glsl
