import SphereTrace.Texture.Builtin

/-! # Catalogs with an index

A catalog can be stored with an index from names to places, which spares it the search. Each
operation answers as it does for a catalog without an index, and also with what is stored then.
-/

namespace SphereTrace.Texture

structure IndexedCatalog where
  kinds : List Kind := []
  /-- The places of the kinds by their names. -/
  index : List (String × Nat) := []

namespace IndexedCatalog

def empty : IndexedCatalog := {}

/-- The catalog without its index. -/
def catalog (s : IndexedCatalog) : Catalog :=
  ⟨s.kinds⟩

def lookup? (s : IndexedCatalog) (name : String) : Option Kind :=
  (s.index.lookup name).bind fun place => s.kinds[place]?

def contains (s : IndexedCatalog) (name : String) : Bool :=
  (s.index.lookup name).isSome

/-- Adds a valid kind with a new name at the end, and its place to the index. -/
def insert (s : IndexedCatalog) (k : Kind) : IndexedCatalog × Except Error Unit :=
  match k.validate with
  | .error e => (s, .error e)
  | .ok () =>
    if s.contains k.name then (s, .error (.catalog (.alreadyDefined k.name)))
    else ({ kinds := s.kinds ++ [k], index := (k.name, s.kinds.length) :: s.index }, .ok ())

def insertAll (s : IndexedCatalog) : List Kind → IndexedCatalog × Except Error Unit
  | [] => (s, .ok ())
  | k :: rest =>
    match s.insert k with
    | (kept, .error e) => (kept, .error e)
    | (grown, .ok ()) => grown.insertAll rest

def insertMissing (s : IndexedCatalog) : List Kind → IndexedCatalog × List Error
  | [] => (s, [])
  | k :: rest =>
    if s.contains k.name then s.insertMissing rest
    else
      match s.insert k with
      | (kept, .error e) =>
        let (grown, refusals) := kept.insertMissing rest
        (grown, e :: refusals)
      | (grown, .ok ()) => grown.insertMissing rest

def extendBuiltin (s : IndexedCatalog) : IndexedCatalog × List Error :=
  s.insertMissing Builtin.kinds

def builtin : IndexedCatalog :=
  empty.extendBuiltin.1

def load (s : IndexedCatalog) : Option (List Kind) → IndexedCatalog × Except Error Nat
  | none => (s, .error (.catalog .unreadable))
  | some kinds =>
    match s.insertAll kinds with
    | (grown, .ok ()) => (grown, .ok kinds.length)
    | (grown, .error e) => (grown, .error e)

end IndexedCatalog

end SphereTrace.Texture
