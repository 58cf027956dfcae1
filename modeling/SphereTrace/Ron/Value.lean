import SphereTrace.Ron.Number

/-! # Reading object notation: structure

Lists, options and records of known shape, by the readers of their elements, and whole texts.
Separators are commas, of which one may trail. A text starts with headers, which may enable
extensions.
-/

namespace SphereTrace.Ron

/-- The extensions of the notation that a text may enable for itself. -/
structure Extensions where
  /-- The value of an option may be given bare. -/
  implicitSome : Bool := false
  /-- The parentheses of a record may be left out in an option. -/
  unwrappedOptions : Bool := false
  /-- Records must be named. -/
  namedRecords : Bool := false

namespace Reader

/-- Elements up to a closing mark, which is left in place. `separated` tells whether another one
may start. Each round takes an element, so the length of the text bounds the rounds. -/
def elementsFrom {σ : Type} (close : Char) (element : σ → Reader σ) :
    (rounds : Nat) → (separated : Bool) → σ → Reader σ
  | 0, _, _ => failure
  | rounds + 1, separated, s => do
    skipBlanks
    if (← peek) == some close then return s
    guard separated
    let s ← element s
    let separated ← comma
    elementsFrom close element rounds separated s

/-- Elements up to a closing mark, which is left in place. -/
def elements {σ : Type} (close : Char) (element : σ → Reader σ) (start : σ) : Reader σ := do
  elementsFrom close element ((← get).length + 1) true start

/-- A list in brackets. -/
def list {α : Type} (element : Reader α) : Reader (List α) := do
  expect "["
  let reversed ← elements ']' (fun taken => do return (← element) :: taken) []
  expect "]"
  return reversed.reverse

/-- The mark between a key and its value. -/
def colon : Reader Unit := do
  skipBlanks
  expect ":"
  skipBlanks

/-- The fields of a record up to its end: `field` reads the value of a field. -/
def fields {σ : Type} (field : String → σ → Reader σ) (start : σ) : Reader σ :=
  elements ')' (fun s => do
    let name ← identifier
    colon
    field name s) start

/-! ## Options and records -/

/-- An option. `bare` reads the fields of a record without its parentheses, which an extension
puts in the place of the record. -/
def option {α : Type} (x : Extensions) (value bare : Reader α) : Reader (Option α) := do
  if ← keyword "None" then return none
  let marked ← keyword "Some"
  if marked then skipBlanks
  let opened ← if marked then accept "(" else pure false
  if opened then
    skipBlanks
    let a ← if x.unwrappedOptions then bare else value
    let _ ← comma
    expect ")"
    return some a
  else
    guard x.implicitSome
    return some (← value)

/-- A record with an optional name; `body` reads its fields. -/
def record {α : Type} (x : Extensions) (name : String) (body : Reader α) : Reader α := do
  if (← peek).any Text.isIdentifierRest then guard ((← identifier) == name)
  else guard (!x.namedRecords)
  skipBlanks
  expect "("
  let a ← body
  expect ")"
  return a

/-! ## Documents -/

def enable (name : String) (x : Extensions) : Reader Extensions :=
  match name with
  | "unwrap_newtypes" => return x
  | "implicit_some" => return { x with implicitSome := true }
  | "unwrap_variant_newtypes" => return { x with unwrappedOptions := true }
  | "explicit_struct_names" => return { x with namedRecords := true }
  | _ => failure

/-- The names of extensions, with commas between them. -/
def extensionNames : (rounds : Nat) → Extensions → Reader Extensions
  | 0, _ => failure
  | rounds + 1, x => do
    let x ← enable (← identifier) x
    if (← comma) && (← peek).any Text.isIdentifierStart then extensionNames rounds x
    else return x

/-- A header in front of the value. Besides extensions there are two headers that describe the value
to other tools. -/
def header (x : Extensions) : Reader Extensions := do
  for mark in ["#", "!", "["] do
    expect mark
    skipBlanks
  let x ←
    if ← keyword "enable" then
      skipBlanks
      expect "("
      skipBlanks
      let x ← extensionNames ((← get).length + 1) x
      skipBlanks
      expect ")"
      pure x
    else
      unless ← keyword "type" do
        guard (← keyword "schema")
      skipBlanks
      expect "="
      skipBlanks
      let _ ← string
      pure x
  skipBlanks
  expect "]"
  skipBlanks
  return x

/-- The headers in front of the value. -/
def headers : (rounds : Nat) → Extensions → Reader Extensions
  | 0, _ => failure
  | rounds + 1, x => do
    if (← peek) == some '#' then
      let x ← header x
      headers rounds x
    else return x

/-- Reads a whole text: headers, one value, and nothing else. -/
def document? {α : Type} (value : Extensions → Reader α) (text : String) : Option α :=
  let reader : Reader α := do
    skipBlanks
    let x ← headers ((← get).length + 1) {}
    let a ← value x
    skipBlanks
    guard (← get).isEmpty
    return a
  (reader.run text.toList).map Prod.fst

end Reader

end SphereTrace.Ron
