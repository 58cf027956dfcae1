import SphereTrace.Ron.AnyValue
import SphereTrace.Texture.Catalog

/-! # Loading kinds from text

A list of kinds in object notation: records whose fields are those of a kind, in any order. Fields
with other names are ignored, whatever their values; a repeated field is an error, and so is a
missing one that has no default. Whether the kinds are valid is left to the catalog.
-/

namespace SphereTrace.Texture

open Glsl (DataType)
open Ron (Extensions Reader)
open Ron.Reader (fields identifier list option record skipValue string)

namespace Loading

/-- How many levels a text may nest. A list or record takes one and what is in it another one, and
an option takes one. -/
def nesting : Nat :=
  128

/-- The levels around a field of a kind. -/
def kindLevel : Nat :=
  4

/-- The levels around a field of a source, which is in an option. -/
def sourceLevel : Nat :=
  kindLevel + 3

/-- The levels around a field of a parameter, which is in a list. -/
def parameterLevel : Nat :=
  kindLevel + 4

/-- The first value for a field; there must be no other. -/
def once {α : Type} (old : Option α) (value : Reader α) : Reader (Option α) := do
  guard old.isNone
  return some (← value)

/-- A field that must be there. -/
def required {α : Type} : Option α → Reader α
  | some a => return a
  | none => failure

def dataType : Reader DataType := do
  match DataType.ofName? (← identifier) with
  | some t => return t
  | none => failure

def float : Reader Binary32 :=
  Ron.Reader.float ["f32"]

structure ParameterFields where
  name : Option String := none
  type : Option DataType := none
  default : Option (List Binary32) := none

def parameterFields (x : Extensions) : Reader Parameter := do
  let found ← fields (fun name (s : ParameterFields) => do
    match name with
    | "name" => return { s with name := ← once s.name string }
    | "ty" => return { s with type := ← once s.type dataType }
    | "default" => return { s with default := ← once s.default (list float) }
    | _ =>
      skipValue x (nesting - parameterLevel)
      return s) {}
  return ⟨← required found.name, ← required found.type, ← required found.default⟩

structure SourceFields where
  entry : Option String := none
  body : Option String := none
  helpers : Option (List String) := none

def sourceFields (x : Extensions) : Reader Source := do
  let found ← fields (fun name (s : SourceFields) => do
    match name with
    | "function" => return { s with entry := ← once s.entry string }
    | "glsl" => return { s with body := ← once s.body string }
    | "helpers" => return { s with helpers := ← once s.helpers (list string) }
    | _ =>
      skipValue x (nesting - sourceLevel)
      return s) {}
  return ⟨← required found.entry, ← required found.body, found.helpers.getD []⟩

structure KindFields where
  name : Option String := none
  solid : Option (Option Source) := none
  planar : Option (Option Source) := none
  parameters : Option (List Parameter) := none

def kindFields (x : Extensions) : Reader Kind := do
  let parameter := record x "ParameterSchema" (parameterFields x)
  let source := option x (record x "TextureSource" (sourceFields x)) (sourceFields x)
  let found ← fields (fun name (s : KindFields) => do
    match name with
    | "name" => return { s with name := ← once s.name string }
    | "solid" => return { s with solid := ← once s.solid source }
    | "planar" => return { s with planar := ← once s.planar source }
    | "parameters" => return { s with parameters := ← once s.parameters (list parameter) }
    | _ =>
      skipValue x (nesting - kindLevel)
      return s) {}
  return { name := ← required found.name
           solid := found.solid.getD none
           planar := found.planar.getD none
           parameters := found.parameters.getD [] }

end Loading

/-- The kinds that a text lists, if it can be read. -/
def kindsOfRon? (text : String) : Option (List Kind) :=
  Ron.Reader.document? (fun x => list (record x "TextureType" (Loading.kindFields x))) text

namespace Catalog

/-- Adds the kinds that a reader finds in a text, in order, and answers with their number. A text
that cannot be read adds nothing; the first kind that is refused ends the loading, and those in
front of it stay. -/
def extendFrom (c : Catalog) (read : String → Option (List Kind)) (text : String) :
    Catalog × Except Error Nat :=
  match read text with
  | none => (c, .error (.catalog .unreadable))
  | some kinds =>
    match c.insertAll kinds with
    | (grown, .ok ()) => (grown, .ok kinds.length)
    | (grown, .error e) => (grown, .error e)

/-- Adds the kinds that a text in object notation lists. -/
def extendFromRon (c : Catalog) (text : String) : Catalog × Except Error Nat :=
  c.extendFrom kindsOfRon? text

end Catalog

end SphereTrace.Texture
