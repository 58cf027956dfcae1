import SphereTrace.Fragment.Request

/-! # Fingerprints of requests

The content of a request as bytes. A text ends with a byte that no text holds, and all else has
a width that is fixed or marked, so requests with different content have different fingerprints.
Numbers go in as bit patterns: the two zeros differ.
-/

namespace SphereTrace.Fragment

/-- The bytes of a text and an end mark, which is not a byte of any text. -/
def textBytes (s : String) : List UInt8 :=
  s.toUTF8.toList ++ [0xff]

/-- The four bytes of a word, low ones first. -/
def wordBytes (w : UInt32) : List UInt8 :=
  [w.toUInt8, (w >>> 8).toUInt8, (w >>> 16).toUInt8, (w >>> 24).toUInt8]

/-- Absent and present colours are told apart by their first byte. -/
def backgroundBytes : Option (Vec3 Binary32) → List UInt8
  | none => [0]
  | some colour => 1 :: colour.toList.flatMap fun x => wordBytes x.bits

def Request.fingerprint (r : Request) : List UInt8 :=
  [r.declarations, r.geometries, r.preface, r.scene, r.lighting, r.postprocessing].flatMap
      textBytes ++
    wordBytes r.steps ++ wordBytes r.minDistance.bits ++ wordBytes r.maxDistance.bits ++
    backgroundBytes r.background

end SphereTrace.Fragment
