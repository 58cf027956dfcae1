import SphereTrace.Binary32.Basic

/-! # The fewest decimal digits that identify a number

A magnitude of `u` units is exactly `u * 5 ^ 149` times `10 ^ -149`, so every finite number has
a finite decimal expansion. Cutting trailing places from it gives a coarser decimal grid; the
coarsest grid with a point next to the value that still reads back is the answer. The search
cannot fail, because the uncut expansion reads back.
-/

namespace SphereTrace.Decimal

/-- A positive decimal `0.d₁d₂… * 10 ^ point`, with no leading and no trailing zero. -/
structure Digits where
  digits : List Char
  point : Int
  deriving DecidableEq

/-- The decimal digits of a whole number; zero has one. -/
def wholeDigits (n : Nat) : List Char :=
  Nat.toDigits 10 n

/-- The decimal `n * 10 ^ places * 10 ^ -149`. -/
def Digits.ofScaled (n places : Nat) : Digits where
  digits := ((wholeDigits n).reverse.dropWhile (· == '0')).reverse
  point := ((wholeDigits n).length + places : Int) - 149

/-- The exact expansion of a magnitude as a multiple of `10 ^ -149`. -/
def expansion (magnitude : Nat) : Nat :=
  Binary32.unitsOf magnitude * Nat.pow 5 149

/-- Does `n * 10 ^ places * 10 ^ -149` round to the magnitude? -/
def readsBack (magnitude n places : Nat) : Bool :=
  Binary32.nearestMagnitude (n * Nat.pow 10 places) (Nat.pow 5 149) == magnitude

/-- The point of the grid with `places` places cut that stands for the magnitude: the nearer of
the two neighbours of its exact value, if it reads back, or else the other one. Of two neighbours
that are equally near the upper one is taken. -/
def gridPoint? (magnitude places : Nat) : Option Nat :=
  let spacing := Nat.pow 10 places
  let below := expansion magnitude / spacing
  let rest := expansion magnitude % spacing
  match readsBack magnitude below places, readsBack magnitude (below + 1) places with
  | true, true => some (if 2 * rest < spacing then below else below + 1)
  | true, false => some below
  | false, true => some (below + 1)
  | false, false => none

/-- Searches grids from `places` cut places down to none, where the expansion itself is left. -/
def search (grid : Nat → Option Nat) (uncut : Nat) : (places : Nat) → Digits
  | 0 => Digits.ofScaled uncut 0
  | places + 1 =>
    match grid (places + 1) with
    | some n => Digits.ofScaled n (places + 1)
    | none => search grid uncut places

/-- The fewest digits that identify a finite nonzero magnitude. The coarsest grid to try is the one
on which the exact expansion has one digit. -/
def shortest (magnitude : Nat) : Digits :=
  search (gridPoint? magnitude) (expansion magnitude)
    ((wholeDigits (expansion magnitude)).length - 1)

end SphereTrace.Decimal
