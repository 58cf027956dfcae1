import SphereTrace.Texture.Catalog
import SphereTrace.Texture.Dispatch

/-! # Registries

A registry numbers instances in the order of their registration. The numbers are the cases of the
dispatch, and they only start again when all instances are dropped. The catalog that instances
are made from never changes.
-/

namespace SphereTrace.Texture

structure Registry where
  catalog : Catalog
  instances : List Instance := []

namespace Registry

/-- A new instance of a kind of the catalog. -/
def tryInstantiate (r : Registry) (kind : String) (overrides : Overrides) :
    Except Error (Instance × List Warning) :=
  match r.catalog.lookup? kind with
  | none => .error (.unknownKind kind)
  | some k => Instance.ofKind k overrides

/-- A new instance of a kind of the catalog, with a warning in place of an error. -/
def instantiate (r : Registry) (kind : String) (overrides : Overrides) :
    Option Instance × List Warning :=
  match r.tryInstantiate kind overrides with
  | .ok (t, warnings) => (some t, warnings)
  | .error e => (none, [.skippedTexture e])

/-- Adds an instance under the next number, and answers with the number. -/
def register (r : Registry) (t : Instance) : Registry × Nat :=
  ({ r with instances := r.instances ++ [t.assignNumber r.instances.length] },
    r.instances.length)

/-- Makes and registers an instance. -/
def texture (r : Registry) (kind : String) (overrides : Overrides) :
    Registry × Option Nat × List Warning :=
  match r.instantiate kind overrides with
  | (some t, warnings) =>
    let (grown, number) := r.register t
    (grown, some number, warnings)
  | (none, warnings) => (r, none, warnings)

/-- Drops all instances. -/
def clear (r : Registry) : Registry :=
  { r with instances := [] }

def get? (r : Registry) (number : Nat) : Option Instance :=
  r.instances[number]?

/-- Puts a changed instance back under its number. -/
def put (r : Registry) (number : Nat) (t : Instance) : Registry :=
  { r with instances := r.instances.set number t }

/-- The uniforms that stand in the program, by instance and then by parameter. -/
def declared (r : Registry) : List Uniform :=
  r.instances.flatMap Instance.declared

/-- The declarations of these uniforms. -/
def declarations (r : Registry) : String :=
  String.join (r.declared.map Uniform.declaration)

def dispatch (r : Registry) : Dispatch :=
  .ofInstances r.instances

/-- Takes the locations of a freshly compiled program. -/
def bind (r : Registry) (locations : Locations) : Registry :=
  { r with instances := r.instances.map fun t => t.bind locations }

/-- Uploads what is dirty, and answers with the writes in order. -/
def upload (r : Registry) : Registry × List Write :=
  let uploads := r.instances.map Instance.upload
  ({ r with instances := uploads.map Prod.fst }, uploads.flatMap Prod.snd)

end Registry

end SphereTrace.Texture
