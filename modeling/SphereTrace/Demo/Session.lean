import SphereTrace.Decimal.Fixed
import SphereTrace.Fragment.Assembly
import SphereTrace.March.Pixel
import SphereTrace.Texture.Builtin

/-! # Demonstration sessions

A demonstration is a run that writes a log and may leave the text of a shader. It is a function:
what it logs and writes is its result, and random words are handed in.
-/

namespace SphereTrace.Demo

open Texture (Overrides Registry)

inductive Level where
  | info
  | warn
  deriving DecidableEq

structure Entry where
  level : Level
  text : String

/-- What a run has left so far. -/
structure Outcome where
  log : List Entry := []
  /-- The name and the text of the shader that was written last. -/
  shader : Option (String × String) := none

abbrev Run :=
  StateT Outcome (Except Error)

def report (level : Level) (text : String) : Run Unit :=
  modify fun o => { o with log := o.log ++ [⟨level, text⟩] }

def info (text : String) : Run Unit :=
  report .info text

def warn (text : String) : Run Unit :=
  report .warn text

/-- Leaves a shader under the name of its file. -/
def writeShader (file source : String) : Run Unit := do
  modify fun o => { o with shader := some (file, source) }
  info s!"Wrote {file} ({(Text.lines source.toList).length} lines)."

/-- Registers a texture that the catalog has to have, and logs its warnings. -/
def addTexture (r : Registry) (kind : String) (overrides : Overrides) :
    Run (Registry × Nat) := do
  let (r, number, warnings) := r.texture kind overrides
  for warning in warnings do
    warn warning.message
  match number with
  | some number => return (r, number)
  | none => throw (.other s!"{kind} is missing from the catalog")

/-- A random number from zero to one, from a random word. The greatest words give one. -/
def unitFraction (word : UInt32) : Binary32 :=
  .ofInt word.toNat / (.ofInt 0xffffffff + 1)

/-- Fills up with blanks on the left. -/
def padLeft (width : Nat) (s : String) : String :=
  String.ofList (List.replicate (width - s.length) ' ') ++ s

/-- Fills up with blanks on the right. -/
def padRight (width : Nat) (s : String) : String :=
  s ++ String.ofList (List.replicate (width - s.length) ' ')

/-- Numbers in brackets, each by the fewest digits that identify it. -/
def showNumbers (xs : List Binary32) : String :=
  "[" ++ ", ".intercalate (xs.map Glsl.positionalRange.render) ++ "]"

/-- The texture kinds that are always there, and no instances. -/
def freshRegistry : Registry where
  catalog := .builtin

end SphereTrace.Demo
