import SphereTrace.Fragment.Request
import SphereTrace.March.Trace

/-! # The colour of a pixel

What the main function of a shader does, without the caller's statements at its end: a ray through
the pixel, a march along it, and the lighting of what it hits. All of it is in single precision.
-/

namespace SphereTrace.March

open Scalar

/-- The march constants of a request. -/
def Settings.ofRequest (r : Fragment.Request) : Settings Binary32 where
  steps := r.steps.toNat
  minDistance := r.minDistance
  maxDistance := r.maxDistance

/-- Brings a number into the range of a byte. -/
def clampByte (n : Int32) : Int32 :=
  if n < 0 then 0 else if 255 < n then 255 else n

/-- The colour that is packed into a number as three bytes, red first. A number above three bytes
saturates the red channel, a negative one empties it. -/
def colourOfNumber (x : Binary32) : Vec3 Binary32 :=
  let packed := x.toInt32
  let channel (n : Int32) : Binary32 := .ofInt (clampByte n).toInt / ofNat 255
  ⟨channel (packed >>> 16), channel ((packed &&& 0xff00) >>> 8), channel (packed &&& 0xff)⟩

/-- The four directions in which the scene is sampled for a normal. -/
def taps : List (Vec3 Binary32) :=
  [⟨one, -one, -one⟩, ⟨-one, -one, one⟩, ⟨-one, one, -one⟩, ⟨one, one, one⟩]

/-- How far from a point the scene is sampled for its normal. -/
def tapDistance : Binary32 :=
  0.002

/-- The surface normal at a point, from a sample in each direction. -/
def normal (scene : Scene Binary32) (point : Vec3 Binary32) :
    Sampling Binary32 (Vec3 Binary32) := do
  let terms ← taps.mapM fun tap => do
    let answer ← scene.ask (point + tap.scale tapDistance)
    return tap.scale answer.distance
  return (terms.foldl (· + ·) (Vec3.splat zero)).direction

/-- The direction of the ray through a point of the screen, for an eye at `origin` that looks at
`target` with the second axis up. -/
def cameraDirection (origin target : Vec3 Binary32) (screen : Vec2 Binary32)
    (lens : Binary32) : Vec3 Binary32 :=
  let forward := (target - origin).direction
  let right := (forward.cross ⟨zero, one, zero⟩).direction
  let up := (right.cross forward).direction
  (right.scale screen.x + up.scale screen.y + forward.scale lens).direction

/-- What the lighting is told about a hit. -/
structure Surface where
  point : Vec3 Binary32
  normal : Vec3 Binary32
  eye : Vec3 Binary32
  direction : Vec3 Binary32
  material : Binary32
  deriving DecidableEq

abbrev Lighting :=
  Surface → Vec3 Binary32

/-- The colour of a surface. The lighting is told of a surface in no other way, and nothing else
adds to the surfaces. -/
def Lighting.ask (lighting : Lighting) (surface : Surface) :
    StateM (List Surface) (Vec3 Binary32) :=
  fun lit => (lighting surface, surface :: lit)

/-- What is fixed for one pixel. -/
structure PixelInput where
  /-- The place in the image, from zero to one in both directions. -/
  place : Vec2 Binary32
  resolution : Vec2 Binary32
  eye : Vec3 Binary32
  target : Vec3 Binary32
  background : Vec3 Binary32

/-- The ray through a pixel. The screen is two units high, and wider by the ratio of the image. -/
def PixelInput.ray (input : PixelInput) : Ray Binary32 where
  origin := input.eye
  direction :=
    let screen : Vec2 Binary32 :=
      ⟨(input.place.x * ofNat 2 - one) * (input.resolution.x / input.resolution.y),
        input.place.y * ofNat 2 - one⟩
    cameraDirection input.eye input.target screen (ofNat 2)

/-- The outcome for a pixel: its colour, the points that were sampled, and the surfaces that were
lit. -/
structure Pixel where
  colour : Vec3 Binary32
  points : List (Vec3 Binary32)
  lit : List Surface

/-- Lights the hit of a march, or shows the background. -/
def shade (input : PixelInput) (settings : Settings Binary32) (scene : Scene Binary32)
    (lighting : Lighting) : Pixel :=
  let ray := input.ray
  let run := march settings scene ray
  let hit := run.answer settings
  if -half < hit.distance then
    let point := ray.at hit.distance
    let (facing, visited) := (normal scene point).run run.visited
    let surface : Surface :=
      { point
        normal := facing
        eye := ray.origin
        direction := ray.direction
        material := hit.material }
    let (colour, lit) := (lighting.ask surface).run []
    ⟨colour, visited.reverse, lit⟩
  else ⟨input.background, run.points, []⟩

end SphereTrace.March
