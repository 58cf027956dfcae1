import SphereTrace.Texture.Kind
import SphereTrace.Texture.Overrides
import SphereTrace.Uniform.Basic

/-! # Texture instances

An instance is a kind with a selected variant and one uniform for each parameter, in the order of
the parameters. Once registered it has a number, and its uniforms are named after that. Parameters
that are written as constants have a uniform too, which is never declared, bound or uploaded.
-/

namespace SphereTrace.Texture

open Glsl (Value)

structure Instance where
  number : Option Nat := none
  kind : Kind
  variant : Variant
  uniforms : List Uniform
  deriving DecidableEq

namespace Instance

/-- The value that a new instance has for a parameter: the override, if it fits. -/
def seed (overrides : Overrides) (p : Parameter) : Value :=
  ((overrides.get? p.name).bind fun input => input.resolve? p.type).getD p.defaultValue

/-- The warning for a parameter whose override does not fit. -/
def seedWarning? (kind : Kind) (overrides : Overrides) (p : Parameter) : Option Warning :=
  match overrides.get? p.name with
  | none => none
  | some input =>
    if (input.resolve? p.type).isSome then none
    else some (.unfitOverride kind.name p.name input.dataType p.type)

/-- What is wrong with the overrides for a kind: those for no parameter, then those that do not
fit their parameter. -/
def overrideWarnings (kind : Kind) (overrides : Overrides) : List Warning :=
  (overrides.names.filter fun name => (kind.parameter? name).isNone).map
      (fun name => .unknownOverride name kind.name) ++
    kind.parameters.filterMap (seedWarning? kind overrides)

/-- The name of a uniform before its instance is registered. -/
def unboundName (kind : Kind) (p : Parameter) : String :=
  kind.name ++ "_" ++ p.name

/-- A new instance of the default variant, with warnings about the overrides. It fails for a kind
without variants, and then says nothing about the overrides. -/
def ofKind (kind : Kind) (overrides : Overrides) : Except Error (Instance × List Warning) :=
  match kind.defaultVariant? with
  | none => .error (.missingVariant kind.name .solid)
  | some variant =>
    .ok ({ kind, variant,
           uniforms := kind.parameters.map fun p =>
             { name := unboundName kind p, value := seed overrides p } },
         overrideWarnings kind overrides)

/-- Selects a variant that the kind has. -/
def setVariant (t : Instance) (variant : Variant) : Except Error Instance :=
  if (t.kind.source? variant).isSome then .ok { t with variant }
  else .error (.missingVariant t.kind.name variant)

/-- The source of the selected variant. Only variants that the kind has are ever selected, so the
empty source stands for no instance that can be made. -/
def source (t : Instance) : Source :=
  (t.kind.source? t.variant).getD ⟨"", "", []⟩

/-- The parameters with their uniforms. -/
def parameters (t : Instance) : List (Parameter × Uniform) :=
  t.kind.parameters.zip t.uniforms

def uniform? (t : Instance) (name : String) : Option Uniform :=
  (t.kind.place? name).bind fun place => t.uniforms[place]?

/-- The current value of a parameter. -/
def get? (t : Instance) (name : String) : Option Value :=
  (t.uniform? name).map Uniform.value

/-- Sets a parameter. The error for an input that does not fit names the parameter, not the
uniform behind it. -/
def set (t : Instance) (name : String) (input : Input) : Except Error Instance :=
  match t.kind.place? name with
  | none => .error (.unknownParameter t.kind.name name)
  | some place =>
    match t.uniforms[place]? with
    | none => .error (.unknownParameter t.kind.name name)
    | some u =>
      match u.assign? input with
      | none => .error (.typeMismatch name u.dataType input.dataType)
      | some changed => .ok { t with uniforms := t.uniforms.set place changed }

/-- Marks the uniforms of all parameters, also of those written as constants. -/
def markDirty (t : Instance) : Instance :=
  { t with uniforms := t.uniforms.map Uniform.markDirty }

/-- Changes the uniforms that stand in the program, in order, and collects what each answers. -/
def mapBacked {β : Type} (f : Uniform → Uniform × β) :
    List Parameter → List Uniform → List Uniform × List β
  | p :: ps, u :: us =>
    let (rest, answers) := mapBacked f ps us
    if p.isUniform then
      let (changed, answer) := f u
      (changed :: rest, answer :: answers)
    else (u :: rest, answers)
  | _, us => (us, [])

/-- The uniforms that stand in the program. -/
def declared (t : Instance) : List Uniform :=
  (t.parameters.filter fun entry => entry.1.isUniform).map Prod.snd

/-- Does a uniform that stands in the program wait for an upload? -/
def isDirty (t : Instance) : Bool :=
  t.declared.any Uniform.dirty

def bind (t : Instance) (locations : Locations) : Instance :=
  let (uniforms, _) := mapBacked (fun u => (u.bind locations, ())) t.kind.parameters t.uniforms
  { t with uniforms }

/-- Uploads what is dirty, and answers with the writes in the order of the parameters. -/
def upload (t : Instance) : Instance × List Write :=
  let (uniforms, writes) := mapBacked Uniform.upload t.kind.parameters t.uniforms
  ({ t with uniforms }, writes.filterMap id)

/-- The name of a uniform of the instance with a number. -/
def boundName (number : Nat) (p : Parameter) : String :=
  "tex" ++ toString number ++ "_" ++ p.name

/-- Gives the instance a number and names its uniforms after it. Locations are forgotten and all
uniforms are dirty. -/
def assignNumber (t : Instance) (number : Nat) : Instance :=
  { t with
    number := some number
    uniforms := t.parameters.map fun entry => entry.2.rename (boundName number entry.1) }

end Instance

end SphereTrace.Texture
