import SphereTrace.Demo.Animation
import SphereTrace.Demo.Blend
import SphereTrace.Demo.Floor
import SphereTrace.Demo.Tour

/-! # The demonstrations by name -/

namespace SphereTrace.Demo

/-- All demonstrations, each with the name it is started by. -/
def programs (words : Nat → UInt32) : List (String × Run Unit) :=
  [("shader-smooth-union-blend", Blend.run),
   ("textures-animated-upload", Animation.run words),
   ("textures-catalog-tour", Tour.run),
   ("textures-checkers-noise", Floor.run)]

/-- The result of the demonstration with a name. -/
def outcome? (name : String) (words : Nat → UInt32) : Option (Except Error Outcome) :=
  ((programs words).lookup name).map fun run => (run.run {}).map Prod.snd

end SphereTrace.Demo
