import SphereTrace.Demo.Session
import SphereTrace.Uniform.Recorder

/-! # Demonstration: a tour of the catalog

A row of boxes, one for each kind of the catalog in its usual variant, and a last one that shows a
planar variant with colours of its own.
-/

namespace SphereTrace.Demo.Tour

open Texture (Instance Kind Overrides Registry)

/-- The distance between two boxes. -/
def spacing : Binary32 := 2.5

def geometries : String :=
  Glsl.text <| Glsl.block "vec2 roundBox( vec3 p, vec3 b, float r, float material )"
    ["vec3 q = abs( p ) - b;",
     "return vec2( length( max( q, 0. ) ) + min( max( q.x, max( q.y, q.z ) ), 0. ) - r, " ++
       "material );"]

def lighting : String :=
  Glsl.text <| Glsl.block
    "vec3 lighting( vec3 pos, vec3 nor, vec3 ro, vec3 rd, float materialId )"
    ["vec3 local = pos - vec3( materialId * 2.5, 0., 0. );",
     "vec3 albedo = getTexture( int( materialId ), local, nor, local.xy * .5 + .5 );",
     "float diffuse = max( dot( nor, normalize( vec3( .3, .8, .6 ) ) ), 0. );",
     "return albedo * ( .2 + .8 * diffuse );"]

/-- The box that shows a texture. -/
def box (number : Nat) : String :=
  s!"roundBox( p - vec3( {Decimal.fixed 1 (.ofInt number * spacing)}, 0., 0. ), " ++
    s!"vec3( .9 ), .1, {number}. )"

/-- All boxes, joined one by one. -/
def scene : List String → String
  | [] => ""
  | first :: rest => rest.foldl (fun joined next => s!"opU( {joined}, {next} )") first

/-- Registers a texture of a kind and says so. -/
def present (textures : Registry) (kind : Kind) : Run Registry := do
  let (made, warnings) := textures.instantiate kind.name .empty
  for warning in warnings do
    warn warning.message
  match made with
  | none => return textures
  | some t =>
    info <| s!"{padRight 9 kind.name} {padLeft 6 t.variant.describe} variant via " ++
      s!"{t.source.entry}() with {kind.parameters.length} parameters"
    return (textures.register t).1

/-- A new texture of a kind in a chosen variant. -/
def make (textures : Registry) (kind : String) (overrides : Overrides)
    (variant : Texture.Variant) : Except Error Instance :=
  match textures.tryInstantiate kind overrides with
  | .error e => .error e
  | .ok (t, _) => t.setVariant variant

def request (textures : Registry) : Fragment.Request :=
  Fragment.Request.withTextures
    { scene := scene ((List.range textures.instances.length).map box)
      geometries
      lighting
      background := some (.splat 0.9)
      maxDistance := 60 }
    textures

def run : Run Unit := do
  let textures := freshRegistry
  let textures ← textures.catalog.kinds.foldlM present textures
  let colours : Overrides :=
    .ofList [("color1", (⟨0.9, 0.3, 0.2⟩ : Vec3 Binary32)), ("color2", (0.1 : Binary32))]
  let textures := (textures.register (← make textures "checkers" colours .planar)).1
  match make textures "truchet" .empty .solid with
  | .error e => warn e.message
  | .ok _ => pure ()
  let source ← (request textures).tryAssemble
  writeShader "textures-catalog-tour.frag" source
  let program := Recorder.ofSource source
  let (textures, writes) := (textures.bind program.locate).upload
  info s!"{textures.instances.length} textures, {writes.length} uniforms uploaded."

end SphereTrace.Demo.Tour
