import SphereTrace.Binary32.Basic

/-! # Arithmetic of single-precision numbers

Sums and products are exact in units, quotients and roots are exact ratios with a marker for what
was cut off, and each result is rounded once. A NaN operand gives a NaN. An exact zero sum is
positive unless both operands are negative; products and quotients take the sign rule also for
zeros and infinities.
-/

namespace SphereTrace.Binary32

instance : Neg Binary32 where
  neg x := ofMagnitude (!x.negative) x.magnitude

/-- A signed count of units, rounded; the sign of zero is given separately. -/
def ofSignedUnits (zeroNegative : Bool) (n : Int) : Binary32 :=
  if n = 0 then zero zeroNegative else ofUnits (decide (n < 0)) n.natAbs 1

def add (x y : Binary32) : Binary32 :=
  if x.isNaN || y.isNaN then nan
  else if x.isInfinite then
    if y.isInfinite && x.negative != y.negative then nan else x
  else if y.isInfinite then y
  else ofSignedUnits (x.negative && y.negative) (x.signedUnits + y.signedUnits)

instance : Add Binary32 := ⟨add⟩

instance : Sub Binary32 where
  sub x y := x + -y

def mul (x y : Binary32) : Binary32 :=
  let negative := x.negative != y.negative
  if x.isNaN || y.isNaN then nan
  else if x.isInfinite || y.isInfinite then
    if x.isZero || y.isZero then nan else infinity negative
  else ofUnits negative (x.units * y.units) unitsPerOne

instance : Mul Binary32 := ⟨mul⟩

def div (x y : Binary32) : Binary32 :=
  let negative := x.negative != y.negative
  if x.isNaN || y.isNaN then nan
  else if x.isInfinite then
    if y.isInfinite then nan else infinity negative
  else if y.isInfinite then zero negative
  else if y.isZero then
    if x.isZero then nan else infinity negative
  else ofUnits negative (x.units * unitsPerOne) y.units

instance : Div Binary32 := ⟨div⟩

/-- The whole part of the square root of `n`, for `n` below `4 ^ digits`: one base-four digit of
`n` gives one binary digit of the root. -/
def wholeRoot : (digits : Nat) → (n : Nat) → Nat
  | 0, _ => 0
  | digits + 1, n =>
    let root := 2 * wholeRoot digits (n / 4)
    if (root + 1) * (root + 1) ≤ n then root + 1 else root

/-- The root of a finite positive number: as `x` units are `x * unitsPerOne` square units, the
whole root of that has far more digits than the result, and one more bit tells whether it was
exact. -/
def rootUnits (units : Nat) : Nat :=
  let square := units * unitsPerOne
  let root := wholeRoot (square.log2 / 2 + 1) square
  2 * root + if root * root = square then 0 else 1

def sqrt (x : Binary32) : Binary32 :=
  if x.isNaN then nan
  else if x.isZero then x
  else if x.negative then nan
  else if x.isInfinite then x
  else ofUnits false (rootUnits x.units) 2

/-- Numbers other than NaNs in their order: the magnitude with its sign. Both zeros come to the
same place. -/
def rank (x : Binary32) : Int :=
  if x.negative then -(x.magnitude : Int) else x.magnitude

/-- No comparison with a NaN holds. -/
instance : LT Binary32 where
  lt x y := x.isNaN = false ∧ y.isNaN = false ∧ x.rank < y.rank

instance : LE Binary32 where
  le x y := x.isNaN = false ∧ y.isNaN = false ∧ x.rank ≤ y.rank

instance : DecidableLT Binary32 := fun x y =>
  inferInstanceAs (Decidable (x.isNaN = false ∧ y.isNaN = false ∧ x.rank < y.rank))

instance : DecidableLE Binary32 := fun x y =>
  inferInstanceAs (Decidable (x.isNaN = false ∧ y.isNaN = false ∧ x.rank ≤ y.rank))

end SphereTrace.Binary32
