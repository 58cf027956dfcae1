import SphereTrace.Fragment.Assembly
import SphereTrace.Fragment.Digest
import SphereTrace.Fragment.Fingerprint

/-! # Cache of assembled shaders

Texts under names of the caller's choice. A text is assembled again when the request for its name
has another content than the one it was made from, as far as the digests of their fingerprints tell.
A request with a fault changes nothing.
-/

namespace SphereTrace.Fragment

structure CacheEntry where
  source : String
  /-- The digest of the fingerprint of the request. -/
  digest : UInt64
  deriving DecidableEq

/-- What the cache answers with. -/
structure CachedSource where
  source : String
  /-- Was the text assembled for this answer, so that it has to be compiled? -/
  rebuilt : Bool
  deriving DecidableEq

/-- At most one entry for each key. -/
structure Cache where
  /-- How fingerprints are digested. No operation depends on more than that equal fingerprints have
  equal digests. -/
  digest : List UInt8 → UInt64 := Digest.ofBytes
  entries : List (String × CacheEntry) := []

namespace Cache

def empty : Cache := {}

def size (c : Cache) : Nat :=
  c.entries.length

def lookup? (c : Cache) (key : String) : Option CacheEntry :=
  c.entries.lookup key

/-- The text under a key, however old. -/
def get? (c : Cache) (key : String) : Option String :=
  (c.lookup? key).map CacheEntry.source

/-- Is there no text under the key, or one for another request? -/
def needsRebuild (c : Cache) (key : String) (r : Request) : Bool :=
  match c.lookup? key with
  | some entry => entry.digest != c.digest r.fingerprint
  | none => true

def erase (c : Cache) (key : String) : Cache :=
  { c with entries := c.entries.filter fun entry => entry.1 != key }

def insert (c : Cache) (key : String) (entry : CacheEntry) : Cache :=
  { c with entries := (key, entry) :: (c.erase key).entries }

/-- The text for a request, assembled if the one under the key is missing or for another request.
An entry was made from a request without fault, so one that still fits is not checked again. -/
def getOrAssemble (c : Cache) (key : String) (r : Request) : Cache × Except Error CachedSource :=
  let digest := c.digest r.fingerprint
  let rebuilt :=
    match c.lookup? key with
    | some entry => entry.digest != digest
    | none => true
  let refreshed : Except Error Cache :=
    if rebuilt then
      match r.tryAssemble with
      | .error e => .error e
      | .ok source => .ok (c.insert key ⟨source, digest⟩)
    else .ok c
  match refreshed with
  | .error e => (c, .error e)
  | .ok refreshed =>
    match refreshed.lookup? key with
    | some entry => (refreshed, .ok ⟨entry.source, rebuilt⟩)
    | none => (refreshed, .error (.other "Entry missing after insert"))

/-- Removes a text and answers with it. -/
def remove (c : Cache) (key : String) : Cache × Option String :=
  (c.erase key, c.get? key)

/-- Removes all texts. -/
def clear (c : Cache) : Cache :=
  { c with entries := [] }

end Cache

end SphereTrace.Fragment
