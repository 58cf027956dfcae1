/-! # Single-precision numbers

A number is its 32-bit pattern, so equality tells the two zeros and all NaNs apart, as a cache
key has to. The value behind a finite pattern is a whole number of *units* of `2 ^ -149`, the
least positive number; every operation is exact on units and rounds once, to the nearest
pattern, ties to the even one. Directed rounding and exception flags are not covered.
-/

namespace SphereTrace

/-- A single-precision number, given by its bit pattern. -/
structure Binary32 where
  bits : UInt32
  deriving DecidableEq, Inhabited

namespace Binary32

/-- The weight of the top bit, which is the sign. -/
def signWeight : Nat :=
  0x80000000

/-- The number of magnitudes with one exponent: the significand field has 23 bits. -/
def binade : Nat :=
  0x800000

/-- The sign bit is set, for zeros and NaNs too. -/
def negative (x : Binary32) : Bool :=
  decide (signWeight ≤ x.bits.toNat)

/-- The pattern without its sign. Magnitudes are ordered like the absolute values. -/
def magnitude (x : Binary32) : Nat :=
  x.bits.toNat % signWeight

/-- The magnitude of the infinities; the finite numbers lie below it and the NaNs above. -/
def infinityMagnitude : Nat :=
  0x7f800000

def isNaN (x : Binary32) : Bool :=
  decide (infinityMagnitude < x.magnitude)

def isInfinite (x : Binary32) : Bool :=
  x.magnitude == infinityMagnitude

def isFinite (x : Binary32) : Bool :=
  decide (x.magnitude < infinityMagnitude)

def isZero (x : Binary32) : Bool :=
  x.magnitude == 0

/-- The pattern with a given sign and magnitude. -/
def ofMagnitude (negative : Bool) (magnitude : Nat) : Binary32 :=
  ⟨UInt32.ofNat (magnitude + if negative then signWeight else 0)⟩

/-- The NaN that operations answer with. -/
def nan : Binary32 :=
  ⟨0x7fc00000⟩

def infinity (negative : Bool) : Binary32 :=
  ofMagnitude negative infinityMagnitude

def zero (negative : Bool) : Binary32 :=
  ofMagnitude negative 0

/-- The units of a magnitude. In the first binade a magnitude counts its own units; above, the high
bits are an exponent and the leading bit of the significand is implied. -/
def unitsOf (magnitude : Nat) : Nat :=
  if magnitude < binade then magnitude
  else (binade + magnitude % binade) <<< (magnitude / binade - 1)

/-- The absolute value of a finite number, in units. -/
def units (x : Binary32) : Nat :=
  unitsOf x.magnitude

/-- The value of a finite number, in units; both zeros have value zero. -/
def signedUnits (x : Binary32) : Int :=
  if x.negative then -(x.units : Int) else x.units

/-- How many units make one. -/
def unitsPerOne : Nat :=
  1 <<< 149

/-- The quotient rounded to the nearest whole number, a half to the even one. -/
def roundQuotient (num den : Nat) : Nat :=
  if 2 * (num % den) < den then num / den
  else if den < 2 * (num % den) then num / den + 1
  else num / den + num / den % 2

/-- The magnitude nearest to `num / den` units. The grid has spacing one below `2 ^ 24` units and
doubles at each further power of two, and a carry out of the significand lands in the exponent;
from the upper end of the finite range on the answer is infinity. -/
def nearestMagnitude (num den : Nat) : Nat :=
  let exponent := (num / den).log2 - 23
  min (exponent * binade + roundQuotient num (den <<< exponent)) infinityMagnitude

/-- The number nearest to `num / den` units with a given sign. -/
def ofUnits (negative : Bool) (num den : Nat) : Binary32 :=
  ofMagnitude negative (nearestMagnitude num den)

/-- The number nearest to a whole number. -/
def ofInt (n : Int) : Binary32 :=
  ofUnits (decide (n < 0)) (n.natAbs * unitsPerOne) 1

/-- The number nearest to `significand * 10 ^ exponent`. -/
def ofDecimal (negative : Bool) (significand : Nat) (exponent : Int) : Binary32 :=
  ofUnits negative (significand * Nat.pow 10 exponent.toNat * unitsPerOne)
    (Nat.pow 10 (-exponent).toNat)

/-- The number nearest to a double-precision one, given by its bit pattern: a sign, 11 bits of
exponent and 52 bits of significand. -/
def ofBinary64 (bits : UInt64) : Binary32 :=
  let negative := decide (0x8000000000000000 ≤ bits.toNat)
  let exponent := bits.toNat / 0x10000000000000 % 0x800
  let fraction := bits.toNat % 0x10000000000000
  if exponent = 0x7ff then
    if fraction = 0 then infinity negative else nan
  else if exponent = 0 then ofUnits negative (fraction <<< 1) (1 <<< 926)
  else ofUnits negative ((0x10000000000000 + fraction) <<< exponent) (1 <<< 926)

/-- The whole part, saturated to the 32-bit range. NaN counts as zero; an infinite magnitude has
more units than the range, so it needs no case of its own. -/
def toInt32 (x : Binary32) : Int32 :=
  let whole : Int := (x.units / unitsPerOne : Nat)
  if x.isNaN then 0
  else if x.negative then Int32.ofInt (max (-0x80000000) (-whole))
  else Int32.ofInt (min 0x7fffffff whole)

/-- A whole literal stands for the nearest number. -/
instance (n : Nat) : OfNat Binary32 n where
  ofNat := ofInt n

/-- A literal with a fraction or an exponent stands for the nearest number. -/
instance : OfScientific Binary32 where
  ofScientific significand negativeExponent exponent :=
    ofDecimal false significand (if negativeExponent then -exponent else exponent)

end Binary32

end SphereTrace
