import SphereTrace.Decimal.Shortest

/-! # Decimals with a set number of places

The exact value of a number rounded to some places, a half to the even neighbour. The sign is that
of the number, also where all digits are zero.
-/

namespace SphereTrace.Decimal

/-- The value in units of the last place, rounded. -/
def roundedPlaces (places : Nat) (x : Binary32) : Nat :=
  Binary32.roundQuotient (x.units * Nat.pow 10 places) Binary32.unitsPerOne

/-- A finite number with a set number of places. -/
def fixed (places : Nat) (x : Binary32) : String :=
  let n := roundedPlaces places x
  let fraction := wholeDigits (n % Nat.pow 10 places)
  let zeros := List.replicate (places - fraction.length) '0'
  String.ofList <|
    (if x.negative then ['-'] else []) ++ wholeDigits (n / Nat.pow 10 places) ++
      if places = 0 then [] else '.' :: zeros ++ fraction

end SphereTrace.Decimal
