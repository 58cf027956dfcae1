import SphereTrace.Binary32.Arithmetic
import SphereTrace.Text.Lines
import SphereTrace.Texture.Registry

/-! # Shader requests

What a caller says about one fragment shader: texts that are spliced into it, and the constants of
the marching loop. Any record is a request; `Request.fault?` tells which of them are refused. The
spliced texts themselves are not checked, as only a compiler of the shading language could.
-/

namespace SphereTrace.Fragment

structure Request where
  /-- Declarations after the fixed uniforms. -/
  declarations : String := ""
  /-- Distance functions, which the scene may call. -/
  geometries : String := ""
  /-- Statements in front of the scene's result. -/
  preface : String := ""
  /-- The result of the scene. -/
  scene : String := ""
  /-- The definition of the lighting function. -/
  lighting : String := ""
  /-- Statements in front of the output. -/
  postprocessing : String := ""
  /-- The most samples along a ray. -/
  steps : UInt32 := 90
  /-- A sample below this distance is a hit. -/
  minDistance : Binary32 := 0.001
  /-- A ray beyond this distance is a miss. -/
  maxDistance : Binary32 := 20
  /-- The colour of a miss; without one the caller's declarations have to give it. -/
  background : Option (Vec3 Binary32) := none
  deriving DecidableEq

namespace Request

/-- A request for a scene, with the usual constants. -/
def ofScene (scene : String) : Request :=
  { scene }

/-- Adds a block of lines to a text, on a line of its own. -/
def appendBlock (target block : String) : String :=
  if block = "" then target
  else if target = "" ∨ Text.endsLine target then target ++ block
  else target ++ "\n" ++ block

/-- Makes the textures of a registry available: their uniforms follow the caller's declarations
and their functions the caller's geometry. -/
def withTextures (r : Request) (textures : Texture.Registry) : Request :=
  { r with
    declarations := appendBlock r.declarations textures.declarations
    geometries := appendBlock r.geometries textures.dispatch.text }

/-- The first fault of a request, in the order scene, steps, distances, background. The loop
counter of the shader is a 32-bit int, which bounds the steps. -/
def fault? (r : Request) : Option RequestFault :=
  if Text.isBlankText r.scene then some .emptyScene
  else if r.steps.toNat = 0 then some .noSteps
  else if 0x7fffffff < r.steps.toNat then some .tooManySteps
  else if !(r.minDistance.isFinite && r.maxDistance.isFinite) then some .infiniteDistance
  else if r.minDistance ≤ 0 then some .minDistanceNotPositive
  else if r.maxDistance ≤ r.minDistance then some .maxDistanceTooSmall
  else if r.background.any fun (c : Vec3 Binary32) => c.toList.any fun x => !x.isFinite then
    some .infiniteBackground
  else none

def validate (r : Request) : Except Error Unit :=
  match r.fault? with
  | some fault => .error (.request fault)
  | none => .ok ()

end Request

end SphereTrace.Fragment
