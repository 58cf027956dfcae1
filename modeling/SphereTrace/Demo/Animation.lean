import SphereTrace.Demo.Session
import SphereTrace.Uniform.Recorder

/-! # Demonstration: animated textures

Two textures move with time and a third changes its colour twice a second. Only what changed is
written to the program in each frame.
-/

namespace SphereTrace.Demo.Animation

open Texture (Instance Overrides Registry)

def frames : Nat := 120

/-- The time between frames. -/
def frameTime : Binary32 := 1 / 60

def request (textures : Registry) : Fragment.Request :=
  Fragment.Request.withTextures
    { scene := "vec2( length( p ) - 1., 0. )"
      lighting := Glsl.oneLine
        "vec3 lighting( vec3 pos, vec3 nor, vec3 ro, vec3 rd, float materialId )"
        "return getTexture( int( materialId ), pos, nor, pos.xy );"
      background := some (.splat 0) }
    textures

/-- Sets a parameter of a registered texture. -/
def setParameter (textures : Registry) (number : Nat) (name : String) (input : Input) :
    Run Registry :=
  match textures.get? number with
  | none => return textures
  | some t => do return textures.put number (← t.set name input)

/-- The state of the animation. -/
structure Stage where
  textures : Registry
  program : Recorder
  /-- Random words that were used. -/
  used : Nat := 0
  /-- Writes so far. -/
  total : Nat := 0

/-- Uploads what changed, and answers with the number of writes. -/
def Stage.upload (s : Stage) : Stage × Nat :=
  let (textures, writes) := s.textures.upload
  ({ s with
      textures
      program := s.program.record writes
      total := s.total + writes.length },
    writes.length)

/-- One frame: `moving` textures take the time, and `flashing` a random colour now and then. -/
def frame (words : Nat → UInt32) (moving : List Nat) (flashing : Nat) (s : Stage)
    (number : Nat) : Run Stage := do
  let time : Binary32 := .ofInt number * frameTime
  let mut s := s
  for texture in moving do
    s := { s with textures := ← setParameter s.textures texture "time" time }
  if number % 30 = 0 then
    let part (i : Nat) := unitFraction (words (s.used + i))
    let colour : Vec3 Binary32 := ⟨part 0, part 1, part 2⟩
    s := { s with
      textures := ← setParameter s.textures flashing "color" colour
      used := s.used + 3 }
  let (uploaded, writes) := s.upload
  if number % 30 = 0 then
    info s!"Frame {padLeft 3 (toString number)}: {writes} writes."
  return uploaded

/-- The whole animation, with random words as needed. -/
def run (words : Nat → UInt32) : Run Unit := do
  let textures := freshRegistry
  let (textures, noise) ← addTexture textures "noise" (.ofList [("scale", (4 : Binary32))])
  let (textures, dots) ← addTexture textures "dots" .empty
  let (textures, voronoi) ← addTexture textures "voronoi" (.ofList [("mode", (1 : Binary32))])
  let program := Recorder.ofSource (← (request textures).tryAssemble)
  let (first, writes) := Stage.upload { textures := textures.bind program.locate, program }
  info s!"Initial upload: {writes} writes."
  let last ← (List.range frames).foldlM
    (fun s i => frame words [noise, voronoi] dots s (i + 1)) first
  let recorded := last.program.takeWrites.1.length
  info s!"{frames} frames, {last.total} writes in total ({recorded} recorded)."

end SphereTrace.Demo.Animation
