import SphereTrace.Demo.Session

/-! # Demonstration: a smooth blend

Two spheres of different colours that flow into each other. After writing the shader, samples
between the spheres and two pixels are computed without it.
-/

namespace SphereTrace.Demo.Blend

open March (Lighting PixelInput Sample Scene Settings)

def red : Nat := 0xe04030

def blue : Nat := 0x3060e0

/-- The width of the band in which the spheres blend. -/
def band : Binary32 := 0.6

def background : Vec3 Binary32 := ⟨0.02, 0.02, 0.03⟩

/-- How far the spheres are from the middle. -/
def offset : Vec3 Binary32 := ⟨1.2, 0, 0⟩

def geometries : String :=
  Glsl.text <| Glsl.block "vec2 sphere( vec3 p, float r, float material )"
    ["return vec2( length( p ) - r, material );"]

def lightingText : String :=
  Glsl.text <| Glsl.block
    "vec3 lighting( vec3 pos, vec3 nor, vec3 ro, vec3 rd, float materialId )"
    ["float diffuse = max( dot( nor, normalize( vec3( 1., 1., 2. ) ) ), 0. );",
     "return colorFromInt( materialId ) * ( .2 + .8 * diffuse );"]

/-- One sphere, moved by the time of the shader to one side. -/
def sphereText (sign : String) (material : Nat) : String :=
  s!"sphere( p {sign} vec3( sin( time ) * 1.2, 0., 0. ), 1., {material}. )"

def request : Fragment.Request where
  scene := "opSmoothUnion( " ++ sphereText "-" red ++ ", " ++ sphereText "+" blue ++ ", " ++
    Glsl.floatLiteral band ++ " )"
  geometries := geometries
  lighting := lightingText
  postprocessing := "color = pow( color, vec3( 1. / 2.2 ) );"
  background := some background

/-- The scene with the spheres at rest. -/
def scene : Scene Binary32 := fun _ p =>
  let a : Sample Binary32 := ⟨(p - offset).length - 1, .ofInt red⟩
  let b : Sample Binary32 := ⟨(p + offset).length - 1, .ofInt blue⟩
  a.smoothMin b band

def lighting : Lighting := fun s =>
  let diffuse := s.normal.dot (Vec3.direction ⟨1, 1, 2⟩)
  let diffuse := if diffuse < 0 then 0 else diffuse
  (March.colourOfNumber s.material).scale (0.2 + 0.8 * diffuse)

/-- Logs a sample on the first axis, at a number of half units. -/
def probe (halves : Int) : Run Unit := do
  let x : Binary32 := .ofInt halves * 0.5
  let hit := scene 0 ⟨x, 0, 0⟩
  info <| "x = " ++ padLeft 5 (Decimal.fixed 2 x) ++ ": distance " ++
    padLeft 6 (Decimal.fixed 3 hit.distance) ++ ", colour " ++
    showNumbers (March.colourOfNumber hit.material).toList

/-- Logs the colour of a pixel. -/
def showPixel (label : String) (place : Vec2 Binary32) : Run Unit := do
  let input : PixelInput :=
    { place
      resolution := ⟨800, 600⟩
      eye := ⟨0, 0, 5⟩
      target := .splat 0
      background }
  let pixel := March.shade input (Settings.ofRequest request) scene lighting
  info s!"{label} pixel: {showNumbers pixel.colour.toList}"

def run : Run Unit := do
  let source ← request.tryAssemble
  writeShader "shader-smooth-union-blend.frag" source
  for step in List.range 9 do
    probe (step - 4 : Int)
  showPixel "centre" (.splat 0.5)
  showPixel "corner" (.splat 0)

end SphereTrace.Demo.Blend
