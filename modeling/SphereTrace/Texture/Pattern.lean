import SphereTrace.Glsl.Block

/-! # Pattern functions

The entry functions of the textures that are always there. The first argument is the coordinate
of the variant, the second one the normal, and the parameters of the kind follow in order.
-/

namespace SphereTrace.Texture.Pattern

open Glsl

/-- Two colours in cubes. -/
def checkers : Lines :=
  block "vec3 checkers( vec3 pos, vec3 normal, float size, vec3 color1, vec3 color2 )"
    (["vec3 tex;",
      "pos = pos * size;"] ++
     chain
       [("if( ( int( floor( pos.x ) + floor( pos.y ) + floor( pos.z ) ) & 1 ) == 0 )",
         ["tex = color1;"]),
        ("else", ["tex = color2;"])] ++
     ["return tex;"])

/-- Two colours in squares. -/
def checkersPlanar : Lines :=
  block "vec3 checkers2d( vec2 uv, vec3 normal, float size, vec3 color1, vec3 color2 )"
    ["float fmodResult = mod( floor( size * uv.x ) + floor( size * uv.y ), 2.0 );",
     "return mix( color1, color2, max( sign( fmodResult ), 0.0 ) );"]

/-- Simplex noise that moves with time. -/
def noise : Lines :=
  block "vec3 noise3d( vec3 pos, vec3 normal, float scale, float time )"
    ["float n = snoise( pos * scale + vec3( 0.0, 0.0, time ) );",
     "return vec3( n );"]

/-- Simplex noise on a surface, scaled together with time. -/
def noisePlanar : Lines :=
  block "vec3 noise2d( vec2 st, vec3 nor, float scale, float time )"
    ["float col = snoise( vec3( st, time ) * scale );",
     "return vec3( col );"]

/-- Square tiles in four random turns. -/
def truchet : Lines :=
  block "vec3 truchet2d( vec2 st, vec3 nor, float scale, vec3 color )"
    ["st = st * scale;",
     "vec2 ipos = floor( st );",
     "vec2 fpos = fract( st );",
     "",
     "vec2 tile = truchetPattern( fpos, random_truchet( ipos ) );",
     "",
     "float col = smoothstep( tile.x - 0.3, tile.x, tile.y ) - smoothstep( tile.x, " ++
       "tile.x + .3, tile.y );",
     "return color * col;"]

/-- A grid of balls. -/
def dots : Lines :=
  block "vec3 dots( vec3 pos, vec3 nor, float scale, vec3 color )"
    ["return vec3( color - smoothstep( 0.3, 0.32, " ++
       "length( fract( pos * ( round( scale / 2. ) + .5 ) ) - .5 ) ) );"]

/-- Stripes across the diagonal. -/
def stripes : Lines :=
  block "vec3 stripes( vec3 pos, vec3 nor, float scale, vec3 color )"
    ["return vec3( color - smoothstep( 0.3, 0.32, " ++
       "length( fract( ( pos.x + pos.y + pos.z ) * scale ) - .5 ) ) );"]

/-- One of the distances to feature points, or their difference. -/
def cellular : Lines :=
  block "vec3 cellular( vec3 pos, vec3 nor, float scale, float jitter, float mode, float strength )"
    (["vec2 w = worley3D( pos * scale, jitter, false );",
      "vec3 o;"] ++
     chain
       [("if( mode == 0. )", ["o = vec3( w.x );"]),
        ("else if( mode == 1. )", ["o = vec3( w.y );"]),
        ("else", ["o = vec3( w.y - w.x );"])] ++
     ["return o * strength;"])

/-- A cell partition that moves with time. -/
def voronoi : Lines :=
  block "vec3 voronoi( vec3 pos, vec3 nor, float scale, float res, float time, float mode )"
    ["vec3 v = voronoi_3d( pos * scale + vec3( 0.0, 0.0, time ), res );",
     "return voronoi_select( v, mode );"]

/-- A cell partition on a surface. -/
def voronoiPlanar : Lines :=
  block "vec3 voronoi2d( vec2 st, vec3 nor, float scale, float res, float time, float mode )"
    ["vec3 v = voronoi_3d( vec3( st * scale, time ), res );",
     "return voronoi_select( v, mode );"]

end SphereTrace.Texture.Pattern
