import SphereTrace.Binary32.Basic
import SphereTrace.Ron.Reader

/-! # Reading object notation: numbers

A float has digits with an optional point and exponent, underscores after digits, and an optional
width; infinities and NaN have names. Decimals of any length are rounded once. Whole numbers have
more forms, and two numbers make a range, but both are only ever skipped.
-/

namespace SphereTrace.Ron.Reader

def isFloatChar (c : Char) : Bool :=
  c.isDigit || c == 'e' || c == 'E' || c == '.' || c == '+' || c == '-' || c == '_'

/-- The longest run of characters of a float. Two points end it: they are the mark of a range. -/
def floatRun : List Char → List Char
  | '.' :: '.' :: _ => []
  | c :: rest => if isFloatChar c then c :: floatRun rest else []
  | [] => []

/-- Drops the underscores. One must follow a digit, an exponent mark or another underscore:
`allowed` tells whether one may be next. -/
def dropUnderscores? : (allowed : Bool) → List Char → Option (List Char)
  | _, [] => some []
  | allowed, c :: rest =>
    if c = '_' then
      if allowed then dropUnderscores? allowed rest else none
    else
      let allowed := c.isDigit || c == 'e' || c == 'E' || (allowed && c != '.')
      (dropUnderscores? allowed rest).map (c :: ·)

/-- The value of decimal digits. -/
def wholeOf (digits : List Char) : Nat :=
  digits.foldl (fun n c => n * 10 + (c.toNat - '0'.toNat)) 0

/-- Splits a sign off; no sign is a plus. -/
def splitSign : List Char → Bool × List Char
  | '-' :: rest => (true, rest)
  | '+' :: rest => (false, rest)
  | cs => (false, cs)

/-- The exponent part of a decimal, which is all that is left of it. -/
def exponent? : List Char → Option Int
  | [] => some 0
  | c :: rest =>
    if c = 'e' ∨ c = 'E' then
      let (negative, digits) := splitSign rest
      if digits.isEmpty || !digits.all Char.isDigit then none
      else some (if negative then -(wholeOf digits : Int) else wholeOf digits)
    else none

/-- The nearest number to a decimal. Beyond sixty places on either side of the digits the exponent
makes no difference, so it is cut there. -/
def nearest (negative : Bool) (digits : List Char) (exponent : Int) : Binary32 :=
  .ofDecimal negative (wholeOf digits) (max (-(digits.length : Int) - 60) (min exponent 60))

/-- A decimal with at least one digit around its point. -/
def decimal? (cs : List Char) : Option Binary32 :=
  let (negative, cs) := splitSign cs
  let whole := cs.takeWhile Char.isDigit
  let rest := cs.drop whole.length
  let (fraction, rest) :=
    match rest with
    | '.' :: rest => (rest.takeWhile Char.isDigit, rest.dropWhile Char.isDigit)
    | rest => ([], rest)
  if whole.isEmpty && fraction.isEmpty then none
  else (exponent? rest).map fun e => nearest negative (whole ++ fraction) (e - fraction.length)

/-- The numbers with names, each with an optional width. -/
def namedFloat? (widths : List String) : Reader (Option Binary32) := do
  for (sign, negative) in [("", false), ("+", false), ("-", true)] do
    for (name, value) in [("inf", Binary32.infinity negative),
        ("NaN", .ofMagnitude negative Binary32.nan.magnitude)] do
      for width in widths do
        if ← keyword (sign ++ name ++ width) then return some value
  return none

/-- A float; `widths` are the width marks that it may have. -/
def float (widths : List String) : Reader Binary32 := do
  match ← namedFloat? ("" :: widths) with
  | some x => return x
  | none =>
    let run := floatRun (← get)
    match (dropUnderscores? false run).bind decimal? with
    | none => failure
    | some x =>
      modify (List.drop run.length)
      for width in widths do
        if ← keyword width then return x
      return x

/-! ## Numbers of any kind -/

def isWholeChar (c : Char) : Bool :=
  (hexDigit? c).isSome || c == '_'

/-- The bases with a mark. -/
def base : Reader Nat := do
  if ← accept "0b" then return 2
  else if ← accept "0o" then return 8
  else if ← accept "0x" then return 16
  else return 10

/-- The width marks of whole numbers, each with the first number above its range, and the first
below for the signed ones. -/
def wholeWidths : List (String × Nat × Nat) :=
  [("i8", 0x80, 0x80), ("i16", 0x8000, 0x8000), ("i32", 0x80000000, 0x80000000),
   ("i64", 0x8000000000000000, 0x8000000000000000), ("u8", 0x100, 0), ("u16", 0x10000, 0),
   ("u32", 0x100000000, 0), ("u64", 0x10000000000000000, 0)]

/-- Is a number in a range? The ends are `below` on the negative side, which belongs to the range,
and `above` on the other side, which does not. -/
def inRange (negative : Bool) (size above below : Nat) : Bool :=
  if negative then decide (size ≤ below) else decide (size < above)

/-- A whole number in any base, in the range of its width mark or, without one, in the range of
64-bit numbers. -/
def whole : Reader Unit := do
  let negative := (← peek) == some '-'
  if (← peek).any fun c => c == '+' || c == '-' then
    let _ ← next
  let base ← base
  let run ← span isWholeChar
  guard (run.head?.any (· != '_'))
  let digits := (run.filter (· != '_')).filterMap hexDigit?
  guard (digits.all (· < base))
  let size := digits.foldl (fun n d => n * base + d) 0
  for (width, above, below) in wholeWidths do
    if ← keyword width then
      guard (inRange negative size above below)
      return
  guard (inRange negative size 0x10000000000000000 0x8000000000000000)

/-- Is a number next that can only be a float? -/
def floatFollows : Reader Bool := do
  let cs ← get
  let (_, cs) := splitSign cs
  return (cs.takeWhile isWholeChar).length < (floatRun cs).length

/-- A number that starts with a digit, a sign or a point. A whole number that is out of range, or
that has an exponent, is read as a float. -/
def digits : Reader Unit := do
  let asFloat : Reader Unit := do
    let _ ← float ["f32", "f64"]
  if ← floatFollows then asFloat else whole <|> asFloat

/-- Takes a number of any kind if one starts here. A byte is one too, and two points start none. -/
def number : Reader Bool := do
  if ← follows ".." then return false
  if (← namedFloat? ["", "f32", "f64"]).isSome then return true
  if ← follows "b'" then
    byte
    return true
  if (← peek).any fun c => c.isDigit || c == '+' || c == '-' || c == '.' then
    digits
    return true
  return false

/-- What follows the two points of a range: its end, which may be left out unless an equals sign
includes it. -/
def rangeEnd : Reader Unit := do
  let included ← accept "="
  let ended ← number
  guard (ended || !included)

/-- Takes a number or a range of numbers if one starts here. A range may lack its start, its end,
or both. -/
def numberOrRange : Reader Bool := do
  let started ← number
  let range ← accept ".."
  if range then rangeEnd
  return started || range

end SphereTrace.Ron.Reader
