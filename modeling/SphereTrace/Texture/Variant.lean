/-! # Variants of a texture

A procedural texture can be evaluated from the position on the surface, or from surface
coordinates. Which of the two a texture has source for is a matter of its kind.
-/

namespace SphereTrace.Texture

inductive Variant where
  /-- Evaluated from the position in space. -/
  | solid
  /-- Evaluated from two surface coordinates. -/
  | planar
  deriving DecidableEq, Inhabited

namespace Variant

/-- The argument of the dispatch function that is passed on as coordinate. -/
def coordinate : Variant → String
  | solid => "pos"
  | planar => "uv"

/-- The wording in messages. -/
def describe : Variant → String
  | solid => "solid (3D)"
  | planar => "planar (2D)"

end Variant

end SphereTrace.Texture
