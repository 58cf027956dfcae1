import SphereTrace.Text.Blank
import SphereTrace.Text.Lines
import SphereTrace.Uniform.Basic

/-! # Recording programs

A program that is compiled by reading its `uniform` lines and that keeps a record of what is
written to it. Each such line takes the next location. It stands in for a graphics device, so it
neither checks the shading language nor drops uniforms that are not used.
-/

namespace SphereTrace

open Glsl (Value)

/-- The names in the order of their locations, and the writes that have not been taken yet. -/
structure Recorder where
  names : List String
  writes : List Write := []

namespace Recorder

/-- The name that a line declares: the third word of a line whose first word is `uniform`, after
the semicolons at its end are dropped. -/
def declaredName? (line : List Char) : Option String :=
  match Text.words (Text.dropTail (· == ';') (Text.trimChars line)) with
  | first :: _ :: name :: _ =>
    if first = "uniform".toList then some (String.ofList name) else none
  | _ => none

def ofSource (source : String) : Recorder where
  names := (Text.lines source.toList).filterMap declaredName?

/-- The place of the last entry with a name. -/
def lastPlace? (name : String) : List String → Option Nat
  | [] => none
  | first :: rest =>
    match lastPlace? name rest with
    | some place => some (place + 1)
    | none => if first = name then some 0 else none

/-- A name that is declared again moves to its later location. A place that a location has no room
for is cut to its low bits. -/
def locate (r : Recorder) : Locations := fun name =>
  (lastPlace? name r.names).map fun place => ⟨.ofNat place⟩

def record (r : Recorder) (writes : List Write) : Recorder :=
  { r with writes := r.writes ++ writes }

/-- The name at a location; a location that the program never gave is shown in angle brackets. -/
def nameAt (r : Recorder) (location : Location) : String :=
  match location.number.toInt with
  | .ofNat place => r.names.getD place ("<" ++ toString place ++ ">")
  | .negSucc n => "<" ++ toString (Int.negSucc n) ++ ">"

/-- Empties the record, in the order of the writes and with names for locations. -/
def takeWrites (r : Recorder) : List (String × Value) × Recorder :=
  (r.writes.map fun write => (r.nameAt write.location, write.value), { r with writes := [] })

end Recorder

end SphereTrace
