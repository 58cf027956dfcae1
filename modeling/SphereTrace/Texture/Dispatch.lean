import SphereTrace.Glsl.Block
import SphereTrace.Text.Lines
import SphereTrace.Texture.Instance

/-! # Dispatch

The text through which a shader reaches the registered textures: the functions of all textures,
each text once, and one function that switches on the texture's number. Calls and cases are
records first and text second.
-/

namespace SphereTrace.Texture

/-- An argument after the coordinate and the normal. -/
inductive Argument where
  /-- The uniform of this name. -/
  | uniform (name : String)
  /-- A constant. -/
  | constant (literal : String)
  deriving DecidableEq

def Argument.text : Argument → String
  | uniform name => name
  | constant literal => literal

/-- A call of an entry function. -/
structure Call where
  entry : String
  coordinate : String
  arguments : List Argument
  deriving DecidableEq

def Call.text (c : Call) : String :=
  c.entry ++ "( " ++
    ", ".intercalate (c.coordinate :: "nor" :: c.arguments.map Argument.text) ++ " )"

/-- The call that evaluates an instance. -/
def Instance.call (t : Instance) : Call where
  entry := t.source.entry
  coordinate := t.variant.coordinate
  arguments := t.parameters.map fun entry =>
    if entry.1.isUniform then .uniform entry.2.name else .constant entry.2.literal

structure Dispatch where
  /-- The texts of all textures, each once. -/
  bodies : String
  /-- The function that switches on the number. -/
  switch : String

namespace Dispatch

/-- Both parts, the second one on a line of its own. -/
def text (d : Dispatch) : String :=
  d.bodies ++ (if d.bodies = "" ∨ Text.endsLine d.bodies then "" else "\n") ++ d.switch

def signature : String :=
  "vec3 getTexture( int id, vec3 pos, vec3 nor, vec2 uv )"

/-- The texts that instances need, each at its first mention. -/
def chunks (instances : List Instance) : List String :=
  (instances.flatMap fun t => t.source.chunks).eraseDups

/-- A text is written without the blanks at its end, and an empty line follows it. -/
def writeChunk (chunk : String) : String :=
  Text.trimEnd chunk ++ "\n\n"

def writeBodies (instances : List Instance) : String :=
  String.join ((chunks instances).map writeChunk)

/-- The lines of a case. -/
def caseLines (label : Nat) (call : Call) : Glsl.Lines :=
  ["case " ++ toString label ++ ":", "    return " ++ call.text ++ ";"]

/-- The cases in order; any other number gives black. -/
def writeSwitch (calls : List Call) : String :=
  Glsl.text <| Glsl.blockBy 4 signature <| Glsl.blockBy 4 "switch ( id )" <|
    calls.zipIdx.flatMap (fun entry => caseLines entry.2 entry.1) ++
      ["default:", "    return vec3(0.);"]

def ofInstances (instances : List Instance) : Dispatch where
  bodies := writeBodies instances
  switch := writeSwitch (instances.map Instance.call)

end Dispatch

end SphereTrace.Texture
