import SphereTrace.Texture.Kind

/-! # Catalogs

A catalog is a list of valid kinds with distinct names, in the order of their insertion. It only
grows: a name that is taken is refused, and no entry is changed or removed.
-/

namespace SphereTrace.Texture

structure Catalog where
  kinds : List Kind := []

namespace Catalog

def empty : Catalog := {}

def names (c : Catalog) : List String :=
  c.kinds.map Kind.name

def lookup? (c : Catalog) (name : String) : Option Kind :=
  c.kinds.find? fun k => k.name == name

def contains (c : Catalog) (name : String) : Bool :=
  c.kinds.any fun k => k.name == name

/-- Adds a valid kind with a new name at the end. -/
def insert (c : Catalog) (k : Kind) : Except Error Catalog :=
  match k.validate with
  | .error e => .error e
  | .ok () =>
    if c.contains k.name then .error (.catalog (.alreadyDefined k.name))
    else .ok { kinds := c.kinds ++ [k] }

/-- Adds kinds in order up to the first that is refused. What was added before it stays. -/
def insertAll (c : Catalog) : List Kind → Catalog × Except Error Unit
  | [] => (c, .ok ())
  | k :: rest =>
    match c.insert k with
    | .error e => (c, .error e)
    | .ok grown => grown.insertAll rest

/-- Adds the kinds whose names are not taken, and answers with the refusals among them. -/
def insertMissing (c : Catalog) : List Kind → Catalog × List Error
  | [] => (c, [])
  | k :: rest =>
    if c.contains k.name then c.insertMissing rest
    else
      match c.insert k with
      | .error e =>
        let (grown, refusals) := c.insertMissing rest
        (grown, e :: refusals)
      | .ok grown => grown.insertMissing rest

end Catalog

end SphereTrace.Texture
