import SphereTrace.Demo.Session
import SphereTrace.Uniform.Recorder

/-! # Demonstration: a ball on a floor

A noisy ball above a checkered floor. The session shows what the first upload, an unchanged one
and one after a change write, and that numbers start again once all textures are dropped.
-/

namespace SphereTrace.Demo.Floor

open Texture (Registry)

def geometries : String :=
  Glsl.text <|
    Glsl.block "vec2 sphere( vec3 p, float r, float material )"
      ["return vec2( length( p ) - r, material );"] ++
    [""] ++
    Glsl.block "vec2 ground( vec3 p, float h, float material )"
      ["return vec2( p.y + h, material );"]

/-- The material of a surface is the number of its texture. -/
def lighting : String :=
  Glsl.text <| Glsl.block
    "vec3 lighting( vec3 pos, vec3 nor, vec3 ro, vec3 rd, float materialId )"
    ["vec3 albedo = getTexture( int( materialId ), pos, nor, pos.xz );",
     "vec3 light = normalize( vec3( 2., 4., 3. ) );",
     "float diffuse = max( dot( nor, light ), 0. );",
     "float shadow = softshadow( pos, light, 0.02, 2.5, 8. );",
     "return albedo * ( 0.15 + 0.85 * diffuse * shadow );"]

def request (textures : Registry) (floor ball : Nat) : Fragment.Request :=
  Fragment.Request.withTextures
    { scene := s!"opU( ground( p, 1., {floor}. ), sphere( p, 1., {ball}. ) )"
      geometries
      lighting
      background := some ⟨0.05, 0.05, 0.08⟩ }
    textures

def run : Run Unit := do
  let textures := freshRegistry
  let (textures, floor) ← addTexture textures "checkers" (.ofList [("size", (5 : Binary32))])
  let (textures, ball) ← addTexture textures "noise" .empty
  let source ← (request textures floor ball).tryAssemble
  writeShader "textures-checkers-noise.frag" source
  let program := Recorder.ofSource source
  let (textures, first) := (textures.bind program.locate).upload
  info s!"First upload wrote {first.length} of {program.names.length} program uniforms."
  let (textures, second) := textures.upload
  info s!"Second upload wrote {second.length}."
  let textures ← match textures.get? ball with
    | none => pure textures
    | some noise => do
      let moved ← noise.set "time" (2.5 : Binary32)
      pure (textures.put ball moved)
  let (textures, third) := textures.upload
  let writes := ((program.record first).record second).record third
  for (name, value) in writes.takeWrites.1.drop first.length do
    info s!"After animating: {name} = {value.literal}"
  let (textures, again) ← addTexture textures.clear "noise" .empty
  info s!"After clear the noise texture is id {again}:\n{textures.dispatch.switch}"

end SphereTrace.Demo.Floor
