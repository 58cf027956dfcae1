import SphereTrace.Glsl.Block

/-! # Fixed source of every shader

The functions and declarations that each fragment shader has, whatever it shows. A caller's texts
may use them by the names given here. Only the bound of the marching loop varies.
-/

namespace SphereTrace.Fragment.Fixed

open Glsl

/-- The head of the shader, with the types and uniforms that are always declared. -/
def preamble : Lines :=
  ["#version 300 es",
   "precision highp float;",
   "",
   "in vec2 v_uv;",
   ""] ++
  record "struct Fresnel"
    ["float bias;",
     "float scale;",
     "float power;"] ++
  [""] ++
  record "struct Light"
    ["vec3 position;",
     "vec3 color;",
     "float attenuation;"] ++
  [""] ++
  record "struct Material"
    ["vec3 ambient;",
     "vec3 diffuse;",
     "vec3 specular;",
     "float shininess;",
     "Fresnel fresnel;"] ++
  ["",
   "uniform float time;",
   "uniform vec2 resolution;",
   "uniform float matTexSize;",
   "uniform sampler2D uMatSampler;",
   "uniform vec3 camera_pos;",
   "uniform vec3 camera_normal;"]

/-- A distance with rounded corners, which the geometry may use. -/
def length8 : Lines :=
  block "float length8( vec2 p )"
    ["return float( pow( pow( p.x, 8. ) + pow( p.y, 8. ), 1. / 8. ) );"]

def marchSignature : String :=
  "vec2 raytrace( vec3 rayOrigin, vec3 rayDir, float maxd, float precis )"

/-- What a march starts from. -/
def marchStart : Lines :=
  ["float latest = precis * 2.0;",
   "float dist = 0.0;",
   "float type = -1.0;",
   "vec2 res = vec2( -1.0, -1.0 );",
   ""]

def marchLoop (steps : Nat) : String :=
  "for( int i = 0; i < " ++ toString steps ++ "; i++ )"

/-- One sample of a march. -/
def marchStep : Lines :=
  ["if( latest < precis || dist > maxd ) break;",
   "vec2 result = scene( rayOrigin + rayDir * dist );",
   "latest = result.x;",
   "type = result.y;",
   "dist += latest;"]

/-- What a march answers with. -/
def marchEnd : Lines :=
  [""] ++
  block "if( dist < maxd )"
    ["res = vec2( dist, type );"] ++
  ["return res;"]

/-- Marches along a ray, for at most a number of steps. -/
def raytrace (steps : Nat) : Lines :=
  block marchSignature (marchStart ++ block (marchLoop steps) marchStep ++ marchEnd)

/-- The surface normal, from four samples of the scene. -/
def normal : Lines :=
  block "vec3 getNormal( vec3 pos, float eps )"
    ["const vec3 v1 = vec3(  1.0, -1.0, -1.0 );",
     "const vec3 v2 = vec3( -1.0, -1.0,  1.0 );",
     "const vec3 v3 = vec3( -1.0,  1.0, -1.0 );",
     "const vec3 v4 = vec3(  1.0,  1.0,  1.0 );",
     "",
     "return normalize(",
     "  v1 * scene( pos + v1 * eps ).x +",
     "  v2 * scene( pos + v2 * eps ).x +",
     "  v3 * scene( pos + v3 * eps ).x +",
     "  v4 * scene( pos + v4 * eps ).x",
     ");"] ++
  [""] ++
  block "vec3 getNormal( vec3 pos )"
    ["return getNormal( pos, 0.002 );"]

/-- The direction of the ray through a point of the screen. -/
def camera : Lines :=
  block "mat3 calcLookAtMatrix( vec3 origin, vec3 target, float roll )"
    ["vec3 rr = vec3( sin( roll ), cos( roll ), 0.0 );",
     "vec3 ww = normalize( target - origin );",
     "vec3 uu = normalize( cross( ww, rr ) );",
     "vec3 vv = normalize( cross( uu, ww ) );",
     "return mat3( uu, vv, ww );"] ++
  [""] ++
  block "vec3 camera( mat3 camMat, vec2 screenPos, float lensLength )"
    ["return normalize( camMat * vec3( screenPos, lensLength ) );"] ++
  [""] ++
  block "vec3 camera( vec3 origin, vec3 target, vec2 screenPos, float lensLength )"
    ["mat3 camMat = calcLookAtMatrix( origin, target, 0.0 );",
     "return camera( camMat, screenPos, lensLength );"]

/-- Combinations of distances and of surfaces, and a soft shadow. -/
def operations : Lines :=
  block "float smin( float a, float b, float k )"
    ["float h = clamp( 0.5 + 0.5 * ( b - a ) / k, 0.0, 1.0 );",
     "return mix( b, a, h ) - k * h * ( 1.0 - h );"] ++
  ["",
   oneLine "float opU( float d1, float d2 )" "return min( d1, d2 );",
   oneLine "vec2  opU( vec2 d1, vec2 d2 )" "return ( d1.x < d2.x ) ? d1 : d2;",
   oneLine "float opUnion( float d1, float d2 )" "return opU( d1, d2 );",
   oneLine "vec2  opUnion( vec2 d1, vec2 d2 )" "return opU( d1, d2 );",
   ""] ++
  block "float opI( float d1, float d2 )"
    ["return max( d1, d2 );"] ++
  [""] ++
  block "vec2 opI( vec2 d1, vec2 d2 )"
    ["return ( d1.x > d2.x ) ? d1 : d2;"] ++
  [""] ++
  block "float softshadow( in vec3 ro, in vec3 rd, in float mint, in float tmax, in float k )"
    (["float res = 1.0;",
      "float t = mint;",
      ""] ++
     block "for( int i = 0; i < 16; i++ )"
       ["float h = scene( ro + rd * t ).x;",
        "res = min( res, k * h / t );",
        "t += clamp( h, 0.02, 0.10 );",
        "if( h < 0.001 || t > tmax ) break;"] ++
     ["",
      "return clamp( res, 0.0, 1.0 );"]) ++
  ["",
   "// Material moves from a.y to b.y as b gets closer than a by up to k. Ties keep a.y."] ++
  block "vec2 smin( vec2 a, vec2 b, float k )"
    ["float h = clamp( 0.5 + 0.5 * ( b.x - a.x ) / k, 0.0, 1.0 );",
     "float d = mix( b.x, a.x, h ) - k * h * ( 1.0 - h );",
     "",
     "float f = clamp( ( a.x - b.x ) / k, 0.0, 1.0 );",
     "float m = mix( a.y, b.y, f );",
     "",
     "return vec2( d, m );"] ++
  ["",
   oneLine "float opS( float d1, float d2 )" "return max( -d1, d2 );"] ++
  block "vec2  opS( vec2 d1, vec2 d2 )"
    ["return -d1.x > d2.x ? vec2( -d1.x, d1.y ) : d2;"] ++
  [""] ++
  block "float opSmoothUnion( float a, float b, float k )"
    ["return smin( a, b, k );"] ++
  [""] ++
  block "vec2 opSmoothUnion( vec2 a, vec2 b, float k )"
    ["return smin( a, b, k );"]

/-- What the main function does in front of the march. -/
def aiming : Lines :=
  ["vec2 pos = v_uv * 2.0 - 1.0;",
   "pos.x *= ( resolution.x / resolution.y );",
   "vec3 color = bg;",
   "vec3 ro = camera_pos;",
   "vec3 rd = camera( ro, camera_normal, pos, 2.0 );",
   ""]

/-- What the main function does behind the march. -/
def shading : Lines :=
  block "if( t.x > -0.5 )"
    ["vec3 pos = ro + rd * t.x;",
     "vec3 nor = getNormal( pos );",
     "",
     "color = lighting( pos, nor, ro, rd, t.y );"] ++
  [""]

/-- The colour that is packed into a number. -/
def colorFromInt : Lines :=
  block "vec3 colorFromInt( in float _color )"
    ["int color = int( _color );",
     "int r = clamp( color >> 16, 0, 255 );",
     "int g = clamp( ( color & 65280 ) >> 8, 0, 255 );",
     "int b = clamp( color & 255, 0, 255 );",
     "",
     "return vec3( float( r ) / 255., float( g ) / 255., float( b ) / 255. );"]

end SphereTrace.Fragment.Fixed
