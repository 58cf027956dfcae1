/-! # Digests of bytes

One word that stands for any number of bytes. Four words take in the bytes by eights and are mixed
by additions, rotations and exclusive ors. Different bytes can have the same digest, so what relies
on digests holds as long as none of those that meet do.
-/

namespace SphereTrace.Fragment

namespace Digest

/-- Four words that are mixed with each other. -/
structure State where
  a : UInt64
  b : UInt64
  c : UInt64
  d : UInt64

/-- The state in front of the first byte. -/
def initial : State :=
  ⟨0x736f6d6570736575, 0x646f72616e646f6d, 0x6c7967656e657261, 0x7465646279746573⟩

def rotateLeft (x n : UInt64) : UInt64 :=
  (x <<< n) ||| (x >>> (64 - n))

/-- One round, in two halves that mix the words in other pairs. -/
def State.mix (s : State) : State :=
  let a := s.a + s.b
  let b := rotateLeft s.b 13 ^^^ a
  let c := s.c + s.d
  let d := rotateLeft s.d 16 ^^^ c
  let a' := rotateLeft a 32 + d
  let c' := c + b
  ⟨a', rotateLeft b 17 ^^^ c', rotateLeft c' 32, rotateLeft d 21 ^^^ a'⟩

def State.absorb (s : State) (word : UInt64) : State :=
  let mixed := State.mix { s with d := s.d ^^^ word }
  { mixed with a := mixed.a ^^^ word }

/-- The word of at most eight bytes, low ones first. -/
def word (bytes : List UInt8) : UInt64 :=
  bytes.foldr (fun byte w => byte.toUInt64 ||| (w <<< 8)) 0

/-- Takes in the bytes by eights. The last word has less than eight and ends with the number of all
bytes. -/
def State.absorbAll (length : UInt64) (s : State) : List UInt8 → State
  | b₀ :: b₁ :: b₂ :: b₃ :: b₄ :: b₅ :: b₆ :: b₇ :: rest =>
    (s.absorb (word [b₀, b₁, b₂, b₃, b₄, b₅, b₆, b₇])).absorbAll length rest
  | rest => s.absorb (word rest ||| (length <<< 56))

/-- Three rounds without input, and all words in one. -/
def State.finish (s : State) : UInt64 :=
  let mixed := State.mix (State.mix (State.mix { s with c := s.c ^^^ 0xff }))
  mixed.a ^^^ mixed.b ^^^ mixed.c ^^^ mixed.d

def ofBytes (bytes : List UInt8) : UInt64 :=
  (initial.absorbAll bytes.length.toUInt64 bytes).finish

end Digest

end SphereTrace.Fragment
