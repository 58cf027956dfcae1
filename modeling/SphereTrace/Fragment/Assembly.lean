import SphereTrace.Fragment.Fixed
import SphereTrace.Fragment.Request

/-! # Assembly of fragment shaders

A shader is a list of pieces, fixed ones and the caller's texts in turn. A text of the caller
always starts on a line of its own and is followed by an empty line; a blank text leaves no trace.
-/

namespace SphereTrace.Fragment.Request

open Glsl (Lines)

/-- A text of the caller as a piece. -/
def splice (fragment : String) : String :=
  if Text.isBlankText fragment then ""
  else fragment ++ (if Text.endsLine fragment then "" else "\n") ++ "\n"

/-- Fixed lines as a piece. -/
def fixed (ls : Lines) : String :=
  Glsl.text ls

def backgroundPiece : Option (Vec3 Binary32) → String
  | none => ""
  | some colour => fixed ["const vec3 bg = " ++ Glsl.vectorLiteral colour.toList ++ ";"]

/-- The scene's result, without the semicolons that a statement would have. -/
def sceneExpression (r : Request) : String :=
  String.ofList (Text.dropTail (· == ';') (Text.trimChars r.scene.toList))

/-- The definition of the scene. -/
def scenePieces (r : Request) : List String :=
  [fixed ["vec2 scene(vec3 p) \x7b"],
   splice r.preface,
   fixed ["  return " ++ r.sceneExpression ++ ";", "\x7d", ""]]

/-- The call that marches along the ray of a pixel. -/
def marchLine (r : Request) : String :=
  "vec2 t = raytrace( ro, rd, " ++ Glsl.floatLiteral r.maxDistance ++ ", " ++
    Glsl.floatLiteral r.minDistance ++ " );"

/-- The main function: the caller's statements see the colour in front of the output. -/
def mainPieces (r : Request) : List String :=
  [fixed ["void main() \x7b"],
   fixed (Glsl.indent 2 (Fixed.aiming ++ [r.marchLine] ++ Fixed.shading)),
   splice r.postprocessing,
   fixed ["  col = vec4( color, 1.0 );", "\x7d"]]

/-- The pieces of a shader in order. -/
def pieces (r : Request) : List String :=
  [fixed Fixed.preamble,
   backgroundPiece r.background,
   splice r.declarations,
   fixed (Fixed.length8 ++ [""]),
   splice r.geometries,
   fixed ["vec2 scene(vec3 p);", ""],
   fixed (Fixed.raytrace r.steps.toNat ++ [""] ++ Fixed.normal ++ [""] ++ Fixed.camera ++ [""] ++
     Fixed.operations ++ [""]),
   splice r.lighting,
   fixed (Fixed.colorFromInt ++ [""])] ++
  r.scenePieces ++ [fixed ["out vec4 col;", ""]] ++ r.mainPieces

/-- The text of the shader, whether or not the request has a fault. -/
def assemble (r : Request) : String :=
  String.join r.pieces

/-- The text of the shader for a request without fault. -/
def tryAssemble (r : Request) : Except Error String :=
  match r.validate with
  | .ok () => .ok r.assemble
  | .error e => .error e

end SphereTrace.Fragment.Request
