import SphereTrace.Ron.Value

/-! # Reading object notation: values of any shape

Values that nobody asked for are read past. How deep they nest is limited, so that a text cannot
make a reader recurse without bound: an option takes one level, and a list, map, tuple or record
takes one for itself and one for each thing in it.
-/

namespace SphereTrace.Ron.Reader

/-- After an opening parenthesis: is this a record, rather than a tuple? -/
def fieldFollows : Reader Bool := do
  let cs ← get
  skipBlanks
  let named ← identifier?
  skipBlanks
  let colon ← follows ":"
  set cs
  return named.isSome && colon

/-- Reads what is in a list, map, tuple or record: `contents` does, with a reader of the values in
it. `levels` are the readers of the values one level down, two levels down and so on. -/
def grouped (levels : List (Reader Unit)) (contents : Reader Unit → Reader Unit) : Reader Unit :=
  match levels with
  | [] => failure
  | _ :: lower => contents (lower.headD failure)

def tuple (value : Reader Unit) : Reader Unit :=
  elements ')' (fun _ => value) ()

def anyFields (value : Reader Unit) : Reader Unit :=
  fields (fun _ _ => value) ()

def entries (value : Reader Unit) : Reader Unit :=
  elements '\x7d' (fun _ => do value; colon; value) ()

/-- What is between parentheses, as fields or as the elements of a tuple. -/
def parenthesized (levels : List (Reader Unit)) : Reader Unit := do
  expect "("
  if ← fieldFollows then grouped levels anyFields else grouped levels tuple
  expect ")"

/-! ## Options without parentheses of their own -/

/-- Takes a character or a string if one is next that can be read. -/
def quote : Reader Bool := do
  if (← attempt character).isSome then return true
  if (← text?).isSome then return true
  return (← bytes?).isSome

/-- Looks for a comma with something after it in front of the closing parenthesis, where `depth`
brackets are open. Brackets in comments and between quotes do not count. Each round takes a
character, so the length of the text bounds the rounds. -/
def commaAhead : (rounds depth : Nat) → Reader Bool
  | 0, _ => failure
  | rounds + 1, depth => do
    skipBlanks
    if ← quote then
      commaAhead rounds depth
    else
      let c ← next
      if c == '(' || c == '[' || c == '\x7b' then commaAhead rounds (depth + 1)
      else if c == ')' || c == ']' || c == '\x7d' then
        match depth with
        | 0 => return false
        | depth + 1 => commaAhead rounds depth
      else if c == ',' && depth == 0 then
        skipBlanks
        return (← peek) != some ')'
      else commaAhead rounds depth

/-- Does a tuple follow, rather than a single value? -/
def tupleFollows : Reader Bool := do
  let cs ← get
  skipBlanks
  if (← identifier?).isSome then skipBlanks
  let found ← commaAhead (cs.length + 1) 0
  set cs
  return found

/-- What is in an option when the parentheses of a record or tuple in it are left out: that record
or tuple, or any other value, or nothing. -/
def unwrapped (levels : List (Reader Unit)) (value : Reader Unit) : Reader Unit := do
  if (← peek) == some ')' then return
  if ← fieldFollows then grouped levels anyFields
  else if ← tupleFollows then grouped levels tuple
  else value

/-- What follows the mark of an option. -/
def optionValue (x : Extensions) (levels : List (Reader Unit)) : Reader Unit := do
  skipBlanks
  match levels with
  | [] => failure
  | value :: lower =>
    if ← accept "(" then
      skipBlanks
      if x.unwrappedOptions then unwrapped lower value else value
      let _ ← comma
      expect ")"
    else
      guard x.implicitSome
      value

/-! ## Values -/

/-- A value of any shape; `levels` read what is nested in it. -/
def valueOver (x : Extensions) (levels : List (Reader Unit)) : Reader Unit := do
  if ← accept "()" then return
  if ← keyword "true" then return
  if ← keyword "false" then return
  if ← keyword "None" then return
  if ← keyword "Some" then
    optionValue x levels
    return
  if ← numberOrRange then return
  if (← identifier?).isSome then
    skipBlanks
    if ← follows "(" then parenthesized levels
    return
  match ← peek with
  | some '(' => parenthesized levels
  | some '[' =>
    grouped levels fun value => do
      let _ ← list value
  | some '\x7b' =>
    expect "\x7b"
    grouped levels entries
    expect "\x7d"
  | some '\'' => character
  | some 'b' => guard (← bytes?).isSome
  | _ => guard (← text?).isSome

/-- Readers of values of any shape, each with one level less below it than the one in front. -/
def valuesOver (x : Extensions) : (depth : Nat) → List (Reader Unit)
  | 0 => []
  | depth + 1 =>
    let levels := valuesOver x depth
    valueOver x levels :: levels

/-- A value of any shape, with at most `depth` levels below it. -/
def skipValue (x : Extensions) (depth : Nat) : Reader Unit :=
  valueOver x (valuesOver x depth)

end SphereTrace.Ron.Reader
