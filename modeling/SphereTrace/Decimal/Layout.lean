import SphereTrace.Decimal.Shortest

/-! # Laying out decimal digits

Positional notation between two places of the decimal point, and an exponent outside of them. A
positional text always has a fraction, so that it cannot be taken for a whole number; a
significand of one digit has none.
-/

namespace SphereTrace.Decimal

/-- Where positional notation applies: the least and the greatest place of the decimal point,
counted from the first digit. -/
structure PositionalRange where
  least : Int
  greatest : Int

/-- Digits with a decimal point and a fraction, which is `0` where no digit is left for it. -/
def positional (d : Digits) : List Char :=
  if d.point ≤ 0 then
    '0' :: '.' :: List.replicate (-d.point).toNat '0' ++ d.digits
  else
    let whole := d.digits.take d.point.toNat
    let fraction := d.digits.drop d.point.toNat
    whole ++ List.replicate (d.point.toNat - whole.length) '0' ++
      '.' :: (if fraction.isEmpty then ['0'] else fraction)

/-- A significand with one digit in front of its point, and the power of ten. -/
def scientific (d : Digits) : List Char :=
  let significand :=
    match d.digits with
    | first :: second :: rest => first :: '.' :: second :: rest
    | short => short
  significand ++ 'e' :: (toString (d.point - 1)).toList

/-- The text of positive digits. -/
def PositionalRange.layout (range : PositionalRange) (d : Digits) : List Char :=
  if range.least ≤ d.point ∧ d.point ≤ range.greatest then positional d else scientific d

/-- The text of a finite number, by the fewest digits that identify it. -/
def PositionalRange.render (range : PositionalRange) (x : Binary32) : String :=
  let body := if x.isZero then ['0', '.', '0'] else range.layout (shortest x.magnitude)
  String.ofList (if x.negative then '-' :: body else body)

end SphereTrace.Decimal
