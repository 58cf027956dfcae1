import SphereTrace.Error
import SphereTrace.Uniform.Input

/-! # Uniforms

A uniform is a named, typed value on its way to a compiled program. It remembers whether it has to
be written and where. A program is only known by the locations it gives to names, and an upload
answers with the writes it makes; sending them is left to the caller.
-/

namespace SphereTrace

open Glsl (DataType Value)

/-- Where a compiled program keeps a uniform. Only the program that gave it can make sense of it. -/
structure Location where
  number : Int32
  deriving DecidableEq, Inhabited

/-- The locations of a program: none for a name that is not one of its active uniforms. -/
abbrev Locations :=
  String → Option Location

/-- One value written to a program. -/
structure Write where
  location : Location
  value : Value
  deriving DecidableEq

/-- New uniforms are dirty and have no location. -/
structure Uniform where
  name : String
  value : Value
  dirty : Bool := true
  location : Option Location := none
  deriving DecidableEq

namespace Uniform

/-- The type of the value, which no operation changes. -/
def dataType (u : Uniform) : DataType :=
  u.value.dataType

/-- A new uniform of a given type, if the input fits it. -/
def ofInput (type : DataType) (name : String) (input : Input) : Except Error Uniform :=
  match input.resolve? type with
  | some value => .ok { name, value }
  | none => .error (.typeMismatch name type input.dataType)

/-- Has the next upload write the value, changed or not. -/
def markDirty (u : Uniform) : Uniform :=
  { u with dirty := true }

/-- Takes an input that fits the type. An equal value counts as a change. -/
def assign? (u : Uniform) (input : Input) : Option Uniform :=
  (input.resolve? u.dataType).map fun value => { u with value, dirty := true }

/-- Takes an input, or says why it does not fit. -/
def set (u : Uniform) (input : Input) : Except Error Uniform :=
  match u.assign? input with
  | some changed => .ok changed
  | none => .error (.typeMismatch u.name u.dataType input.dataType)

/-- Fills every component, which fits any type. -/
def fill (u : Uniform) (x : Binary32) : Uniform :=
  { u with value := .broadcast u.dataType x, dirty := true }

/-- The constant that stands for the uniform where it is not declared. -/
def literal (u : Uniform) : String :=
  u.value.literal

/-- The declaration, one line. -/
def declaration (u : Uniform) : String :=
  "uniform " ++ u.dataType.name ++ " " ++ u.name ++ ";\n"

/-- Takes the location from a freshly compiled program. The program holds no value yet, so the
uniform is dirty afterwards also where the location is the one it had. -/
def bind (u : Uniform) (locations : Locations) : Uniform :=
  { u with location := locations u.name, dirty := true }

/-- Cleans a dirty uniform, writing its value if it has a location. -/
def upload (u : Uniform) : Uniform × Option Write :=
  if u.dirty then
    ({ u with dirty := false }, u.location.map fun location => ⟨location, u.value⟩)
  else (u, none)

/-- Gives another name; what was known of a location no longer holds. -/
def rename (u : Uniform) (name : String) : Uniform :=
  { u with name, location := none, dirty := true }

end Uniform

end SphereTrace
