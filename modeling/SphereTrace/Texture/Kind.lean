import SphereTrace.Error
import SphereTrace.Glsl.Value
import SphereTrace.Text.Blank

/-! # Kinds of procedural texture

A kind pairs source in the shading language, for one variant or both, with an ordered list of
parameters. Any record of this shape is a kind; `Kind.validate` says which of them may enter a
catalog, and names the first fault otherwise.
-/

namespace SphereTrace.Texture

open Glsl (DataType Value)

/-- The source of one variant: the entry function, the text that defines it, and the texts that
this depends on. -/
structure Source where
  entry : String
  body : String
  helpers : List String := []
  deriving DecidableEq

/-- The texts of a source in the order in which they have to be defined. -/
def Source.chunks (s : Source) : List String :=
  s.helpers ++ [s.body]

/-- A parameter with the components of its default: a single one for all, or one for each. -/
structure Parameter where
  name : String
  type : DataType
  default : List Binary32
  deriving DecidableEq

namespace Parameter

/-- The default as a value. A list that does not fit the type counts as zero; no kind with such a
list is valid. -/
def defaultValue (p : Parameter) : Value :=
  (Value.ofComponents? p.type p.default).getD (Value.zero p.type)

/-- The name of parameters that are written into the source as constants. -/
def inlinedName : String :=
  "material"

/-- Is the parameter backed by a uniform, rather than written as a constant? -/
def isUniform (p : Parameter) : Bool :=
  p.name != inlinedName

end Parameter

structure Kind where
  name : String
  solid : Option Source := none
  planar : Option Source := none
  parameters : List Parameter := []
  deriving DecidableEq

namespace Kind

def source? (k : Kind) : Variant → Option Source
  | .solid => k.solid
  | .planar => k.planar

/-- The variant of a new instance: solid where there is one. -/
def defaultVariant? (k : Kind) : Option Variant :=
  if k.solid.isSome then some .solid
  else if k.planar.isSome then some .planar
  else none

/-- The place of the first parameter with a name. -/
def place? (k : Kind) (name : String) : Option Nat :=
  k.parameters.findIdx? fun p => p.name == name

def parameter? (k : Kind) (name : String) : Option Parameter :=
  k.parameters.find? fun p => p.name == name

/-- The sources that the kind has, solid first. -/
def sources (k : Kind) : List Source :=
  k.solid.toList ++ k.planar.toList

/-- The first fault of a parameter list, where `seen` holds the names in front of it: a name that
was there before, or else a default that does not fit. -/
def parameterFault? (kind : String) (seen : List String) : List Parameter → Option CatalogFault
  | [] => none
  | p :: rest =>
    if p.name ∈ seen then some (.repeatedParameter kind p.name)
    else if (Value.ofComponents? p.type p.default).isNone then
      some (.wrongDefault kind p.name p.type p.default.length)
    else parameterFault? kind (p.name :: seen) rest

/-- The first fault of a kind, in the order name, variants, entry functions, parameters. -/
def fault? (k : Kind) : Option CatalogFault :=
  if Text.isBlankText k.name then some .unnamedKind
  else if k.sources.isEmpty then some (.noVariant k.name)
  else if k.sources.any fun s => Text.isBlankText s.entry then some (.unnamedEntry k.name)
  else parameterFault? k.name [] k.parameters

/-- Accepts a kind without fault. -/
def validate (k : Kind) : Except Error Unit :=
  match k.fault? with
  | some fault => .error (.catalog fault)
  | none => .ok ()

end Kind

end SphereTrace.Texture
