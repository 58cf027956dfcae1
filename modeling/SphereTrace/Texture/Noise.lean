import SphereTrace.Glsl.Block

/-! # Noise functions

Source that several textures depend on: simplex noise, noise by the two nearest feature points of
a cell grid, and a cell partition. Names carry the name of the noise, so that they stay clear of a
caller's own functions.
-/

namespace SphereTrace.Texture.Noise

open Glsl

/-- Simplex noise of a position. -/
def simplex : Lines :=
  [oneLine "vec3 snoise_mod289( vec3 x )" "return x - floor( x * ( 1.0 / 289.0 ) ) * 289.0;",
   oneLine "vec4 snoise_mod289( vec4 x )" "return x - floor( x * ( 1.0 / 289.0 ) ) * 289.0;",
   oneLine "vec4 snoise_permute( vec4 x )" "return snoise_mod289( ( ( x * 34.0 ) + 1.0 ) * x );",
   oneLine "vec4 snoise_taylorInvSqrt( vec4 r )" "return 1.79284291400159 - 0.85373472095314 * r;",
   ""] ++
  block "float snoise( vec3 v )"
    ["const vec2 C = vec2( 1.0 / 6.0, 1.0 / 3.0 );",
     "const vec4 D = vec4( 0.0, 0.5, 1.0, 2.0 );",
     "",
     "vec3 i  = floor( v + dot( v, C.yyy ) );",
     "vec3 x0 = v - i + dot( i, C.xxx );",
     "",
     "vec3 g  = step( x0.yzx, x0.xyz );",
     "vec3 l  = 1.0 - g;",
     "vec3 i1 = min( g.xyz, l.zxy );",
     "vec3 i2 = max( g.xyz, l.zxy );",
     "",
     "vec3 x1 = x0 - i1 + C.xxx;",
     "vec3 x2 = x0 - i2 + C.yyy;",
     "vec3 x3 = x0 - D.yyy;",
     "",
     "i = snoise_mod289( i );",
     "vec4 p = snoise_permute( snoise_permute( snoise_permute(",
     "           i.z + vec4( 0.0, i1.z, i2.z, 1.0 ) )",
     "         + i.y + vec4( 0.0, i1.y, i2.y, 1.0 ) )",
     "         + i.x + vec4( 0.0, i1.x, i2.x, 1.0 ) );",
     "",
     "float n_ = 0.142857142857;",
     "vec3  ns = n_ * D.wyz - D.xzx;",
     "",
     "vec4 j = p - 49.0 * floor( p * ns.z * ns.z );",
     "",
     "vec4 x_ = floor( j * ns.z );",
     "vec4 y_ = floor( j - 7.0 * x_ );",
     "",
     "vec4 x = x_ * ns.x + ns.yyyy;",
     "vec4 y = y_ * ns.x + ns.yyyy;",
     "vec4 h = 1.0 - abs( x ) - abs( y );",
     "",
     "vec4 b0 = vec4( x.xy, y.xy );",
     "vec4 b1 = vec4( x.zw, y.zw );",
     "",
     "vec4 s0 = floor( b0 ) * 2.0 + 1.0;",
     "vec4 s1 = floor( b1 ) * 2.0 + 1.0;",
     "vec4 sh = -step( h, vec4( 0.0 ) );",
     "",
     "vec4 a0 = b0.xzyw + s0.xzyw * sh.xxyy;",
     "vec4 a1 = b1.xzyw + s1.xzyw * sh.zzww;",
     "",
     "vec3 p0 = vec3( a0.xy, h.x );",
     "vec3 p1 = vec3( a0.zw, h.y );",
     "vec3 p2 = vec3( a1.xy, h.z );",
     "vec3 p3 = vec3( a1.zw, h.w );",
     "",
     "vec4 norm = snoise_taylorInvSqrt( vec4( dot( p0, p0 ), dot( p1, p1 ), dot( p2, p2 ), " ++
       "dot( p3, p3 ) ) );",
     "p0 *= norm.x;",
     "p1 *= norm.y;",
     "p2 *= norm.z;",
     "p3 *= norm.w;",
     "",
     "vec4 m = max( 0.6 - vec4( dot( x0, x0 ), dot( x1, x1 ), dot( x2, x2 ), dot( x3, " ++
       "x3 ) ), 0.0 );",
     "m = m * m;",
     "return 42.0 * dot( m * m, vec4( dot( p0, x0 ), dot( p1, x1 ), dot( p2, x2 ), dot( p3, " ++
       "x3 ) ) );"]

/-- Distances to the two nearest feature points, one to each cell. -/
def cellDistance : Lines :=
  block "vec3 worley_hash( vec3 p )"
    ["p = vec3( dot( p, vec3( 127.1, 311.7, 74.7 ) ),",
     "          dot( p, vec3( 269.5, 183.3, 246.1 ) ),",
     "          dot( p, vec3( 113.5, 271.9, 124.6 ) ) );",
     "return fract( sin( p ) * 43758.5453123 );"] ++
  [""] ++
  block "vec2 worley3D( vec3 p, float jitter, bool manhattanDistance )"
    (["vec3 cell = floor( p );",
      "vec3 f = fract( p );",
      "float f1 = 8.0;",
      "float f2 = 8.0;"] ++
     block "for( int k = -1; k <= 1; k++ )"
       (block "for( int j = -1; j <= 1; j++ )"
          (block "for( int i = -1; i <= 1; i++ )"
             (["vec3 b = vec3( float( i ), float( j ), float( k ) );",
               "vec3 r = b - f + jitter * worley_hash( cell + b );",
               "float d = manhattanDistance ? abs( r.x ) + abs( r.y ) + abs( r.z ) : dot( r, " ++
                 "r );"] ++
              chain
                [("if( d < f1 )",
                  ["f2 = f1;",
                   "f1 = d;"]),
                 ("else if( d < f2 )", ["f2 = d;"])]))) ++
     ["return manhattanDistance ? vec2( f1, f2 ) : sqrt( vec2( f1, f2 ) );"])

/-- Distances to the two nearest feature points, and a number for the cell of the nearest. -/
def cellPartition : Lines :=
  block "vec3 voronoi_hash( vec3 p )"
    ["return fract(",
     "  sin( vec3( dot( p, vec3( 1.0, 57.0, 113.0 ) ),",
     "             dot( p, vec3( 57.0, 113.0, 1.0 ) ),",
     "             dot( p, vec3( 113.0, 1.0, 57.0 ) ) ) ) * 43758.5453 );"] ++
  [""] ++
  block "vec3 voronoi_3d( const in vec3 x, float _res )"
    (["vec3 p = floor( x );",
      "vec3 f = fract( x );",
      "",
      "float id = 0.0;",
      "vec2 res = vec2( _res );"] ++
     block "for( int k = -1; k <= 1; k++ )"
       (block "for( int j = -1; j <= 1; j++ )"
          (block "for( int i = -1; i <= 1; i++ )"
             ["vec3 b = vec3( float( i ), float( j ), float( k ) );",
              "vec3 r = vec3( b ) - f + voronoi_hash( p + b );",
              "float d = dot( r, r );",
              "",
              "float cond = max( sign( res.x - d ), 0.0 );",
              "float nCond = 1.0 - cond;",
              "",
              "float cond2 = nCond * max( sign( res.y - d ), 0.0 );",
              "float nCond2 = 1.0 - cond2;",
              "",
              "id = ( dot( p + b, vec3( 1.0, 57.0, 113.0 ) ) * cond ) + ( id * nCond );",
              "res = vec2( d, res.x ) * cond + res * nCond;",
              "",
              "res.y = cond2 * d + nCond2 * res.y;"])) ++
     ["",
      "return vec3( sqrt( res ), abs( id ) );"]) ++
  [""] ++
  block "vec3 voronoi_select( vec3 v, float mode )"
    ["if( mode == 0. ) return vec3( v.x );",
     "if( mode == 1. ) return vec3( v.y );",
     "return vec3( v.y - v.x );"]

/-- A random number for a tile, and a turn of the tile by such a number. -/
def tileTurn : Lines :=
  block "float random_truchet( in vec2 _st )"
    ["return fract( sin( dot( _st.xy, vec2( 12.9898, 78.233 ) ) ) * 43758.5453123 );"] ++
  [""] ++
  block "vec2 truchetPattern( in vec2 _st, in float _index )"
    (["_index = fract( ( ( _index - 0.5 ) * 2.0 ) );"] ++
     chain
       [("if( _index > 0.75 )", ["_st = vec2( 1.0 ) - _st;"]),
        ("else if( _index > 0.5 )", ["_st = vec2( 1.0 - _st.x, _st.y );"]),
        ("else if( _index > 0.25 )", ["_st = 1.0 - vec2( 1.0 - _st.x, _st.y );"])] ++
     ["return _st;"])

end SphereTrace.Texture.Noise
