import SphereTrace.Glsl.DataType
import SphereTrace.Texture.Variant

/-! # Errors

Errors are causes, with what a reader of the message has to know; the wording is one function for
each family. Warnings are not errors: the operation went on without what it warns of.
-/

namespace SphereTrace

open Glsl (DataType)
open Texture (Variant)

/-- Why a shader request is refused. -/
inductive RequestFault where
  | emptyScene
  | noSteps
  | tooManySteps
  | infiniteDistance
  | minDistanceNotPositive
  | maxDistanceTooSmall
  | infiniteBackground
  deriving DecidableEq

def RequestFault.message : RequestFault → String
  | emptyScene => "scene expression must not be empty"
  | noSteps => "steps must be > 0"
  | tooManySteps => "steps must fit in a GLSL int"
  | infiniteDistance => "min_distance and max_distance must be finite"
  | minDistanceNotPositive => "min_distance must be > 0"
  | maxDistanceTooSmall => "max_distance must be greater than min_distance"
  | infiniteBackground => "background must be finite"

/-- Why a texture kind, or a text that holds some, does not enter a catalog. -/
inductive CatalogFault where
  | unnamedKind
  | noVariant (kind : String)
  | unnamedEntry (kind : String)
  | repeatedParameter (kind parameter : String)
  | wrongDefault (kind parameter : String) (type : DataType) (components : Nat)
  | alreadyDefined (kind : String)
  | unreadable
  deriving DecidableEq

def CatalogFault.message : CatalogFault → String
  | unnamedKind => "texture type name must not be empty"
  | noVariant kind => s!"texture type '{kind}' defines neither a solid nor a planar variant"
  | unnamedEntry kind => s!"texture type '{kind}' has a variant without an entry function name"
  | repeatedParameter kind parameter =>
    s!"texture type '{kind}' declares parameter '{parameter}' twice"
  | wrongDefault kind parameter type components =>
    s!"parameter '{kind}.{parameter}' of type {type.name} has {components} default components"
  | alreadyDefined kind => s!"texture type '{kind}' is already defined"
  | unreadable => "not a list of texture types"

inductive Error where
  | request (fault : RequestFault)
  | unknownKind (kind : String)
  | unknownParameter (texture parameter : String)
  | typeMismatch (parameter : String) (expected got : DataType)
  | missingVariant (texture : String) (variant : Variant)
  | catalog (fault : CatalogFault)
  | other (text : String)
  deriving DecidableEq

namespace Error

def message : Error → String
  | request fault => s!"invalid configuration: {fault.message}"
  | unknownKind kind => s!"the texture type '{kind}' does not exist"
  | unknownParameter texture parameter => s!"texture '{texture}' has no parameter '{parameter}'"
  | typeMismatch parameter expected got =>
    s!"parameter '{parameter}' expects {expected.name} but got {got.name}"
  | missingVariant texture variant => s!"texture '{texture}' has no {variant.describe} variant"
  | catalog fault => s!"catalog error: {fault.message}"
  | other text => text

instance : Coe String Error := ⟨.other⟩

end Error

/-- What an operation leaves out and goes on without. -/
inductive Warning where
  /-- A texture that could not be made. -/
  | skippedTexture (cause : Error)
  /-- An override for a parameter that the texture does not have. -/
  | unknownOverride (override texture : String)
  /-- An override that does not fit the parameter, which keeps its default. -/
  | unfitOverride (texture parameter : String) (got expected : DataType)
  deriving DecidableEq

def Warning.message : Warning → String
  | skippedTexture cause => s!"Skipping texture: {cause.message}"
  | unknownOverride override texture =>
    s!"Ignoring override '{override}' for texture '{texture}': no such parameter."
  | unfitOverride texture parameter got expected =>
    s!"Override for '{texture}.{parameter}' is a {got.name} " ++
      s!"but the parameter is {expected.name}; using the default."

end SphereTrace
