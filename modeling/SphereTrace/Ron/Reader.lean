import SphereTrace.Text.Identifier

/-! # Reading object notation: texts and names

The lexical part of reading RON, an object notation with records, lists and options: blanks,
comments, identifiers and strings. A reader takes what it reads off the front of the text and
fails without saying why; the callers only tell readable texts from others.
-/

namespace SphereTrace.Ron

abbrev Reader :=
  StateT (List Char) Option

namespace Reader

/-- The next character, left in place. -/
def peek : Reader (Option Char) := do
  return (← get).head?

/-- Takes the next character; fails at the end. -/
def next : Reader Char := do
  match ← get with
  | [] => failure
  | c :: rest =>
    set rest
    return c

/-- Takes a given text if it is next, and tells whether it was. -/
def accept (s : String) : Reader Bool := do
  let cs ← get
  if s.toList.isPrefixOf cs then
    set (cs.drop s.length)
    return true
  else return false

/-- Takes a given text; fails if it is not next. -/
def expect (s : String) : Reader Unit := do
  guard (← accept s)

/-- Is a given text next? -/
def follows (s : String) : Reader Bool := do
  return s.toList.isPrefixOf (← get)

/-- Takes the longest run of characters that satisfy `p`. -/
def span (p : Char → Bool) : Reader (List Char) := do
  let cs ← get
  set (cs.dropWhile p)
  return cs.takeWhile p

/-- Runs a reader, and takes nothing where it fails. -/
def attempt {α : Type} (reader : Reader α) : Reader (Option α) :=
  (some <$> reader) <|> pure none

/-! ## Blanks and comments -/

/-- The blanks of the notation: the ASCII ones but for the separators, two line ends outside of
ASCII, the separators of lines and paragraphs, and the two direction marks. -/
def isBlank (c : Char) : Bool :=
  let n := c.toNat
  (9 ≤ n && n ≤ 13) || n == 32 || n == 0x85 || n == 0x200e || n == 0x200f || n == 0x2028 ||
    n == 0x2029

/-- What a reader is in the middle of between two values. -/
inductive Between where
  | blanks
  | lineComment
  /-- A block comment with this many more around it. Comments nest. -/
  | blockComment (outer : Nat)

/-- What follows the blanks and comments at the front. A stroke that starts no comment is an
error. -/
def afterBlanks? : Between → List Char → Option (List Char)
  | .blanks, [] => some []
  | .blanks, '/' :: '/' :: rest => afterBlanks? .lineComment rest
  | .blanks, '/' :: '*' :: rest => afterBlanks? (.blockComment 0) rest
  | .blanks, '/' :: _ => none
  | .blanks, c :: rest => if isBlank c then afterBlanks? .blanks rest else some (c :: rest)
  | .lineComment, [] => some []
  | .lineComment, c :: rest => afterBlanks? (if c = '\n' then .blanks else .lineComment) rest
  | .blockComment _, [] => none
  | .blockComment outer, '/' :: '*' :: rest => afterBlanks? (.blockComment (outer + 1)) rest
  | .blockComment 0, '*' :: '/' :: rest => afterBlanks? .blanks rest
  | .blockComment (outer + 1), '*' :: '/' :: rest => afterBlanks? (.blockComment outer) rest
  | .blockComment outer, _ :: rest => afterBlanks? (.blockComment outer) rest

def skipBlanks : Reader Unit := do
  match afterBlanks? .blanks (← get) with
  | some rest => set rest
  | none => failure

/-- Takes blanks, and a comma with the blanks after it if there is one. -/
def comma : Reader Bool := do
  skipBlanks
  let found ← accept ","
  if found then skipBlanks
  return found

/-! ## Identifiers -/

/-- May the character stand in a marked identifier? -/
def isRawIdentifier (c : Char) : Bool :=
  Text.isIdentifierRest c || c == '.' || c == '+' || c == '-'

/-- Takes a keyword, unless it is only the start of a longer identifier. -/
def keyword (s : String) : Reader Bool := do
  let cs ← get
  let rest := cs.drop s.length
  if s.toList.isPrefixOf cs && !rest.head?.any Text.isIdentifierRest then
    set rest
    return true
  else return false

/-- Does a string or a byte follow, whose mark could be taken for an identifier? -/
def quoteFollows : Reader Bool := do
  let cs ← get
  return ["b\"", "b'", "br#", "br\"", "r\"", "r#\"", "r##"].any fun mark =>
    mark.toList.isPrefixOf cs

/-- Takes an identifier if one is next. The mark `r#` lets it hold a dot or a sign. -/
def identifier? : Reader (Option (List Char)) := do
  if ← quoteFollows then return none
  match ← get with
  | 'r' :: '#' :: rest =>
    let name := rest.takeWhile isRawIdentifier
    if name.isEmpty then return none
    set (rest.drop name.length)
    return some name
  | c :: rest =>
    if Text.isIdentifierStart c then
      let tail := rest.takeWhile Text.isIdentifierRest
      set (rest.drop tail.length)
      return some (c :: tail)
    else return none
  | [] => return none

/-- Takes an identifier. It must not run on into characters that only a marked one may hold. -/
def identifier : Reader String := do
  match ← identifier? with
  | none => failure
  | some name =>
    if (← peek).any isRawIdentifier then failure
    return String.ofList name

/-! ## Strings -/

def hexDigit? (c : Char) : Option Nat :=
  if '0' ≤ c ∧ c ≤ '9' then some (c.toNat - '0'.toNat)
  else if 'a' ≤ c ∧ c ≤ 'f' then some (c.toNat - 'a'.toNat + 10)
  else if 'A' ≤ c ∧ c ≤ 'F' then some (c.toNat - 'A'.toNat + 10)
  else none

/-- Two hexadecimal digits. -/
def byteEscape : Reader UInt8 := do
  match hexDigit? (← next), hexDigit? (← next) with
  | some high, some low => return UInt8.ofNat (high * 16 + low)
  | _, _ => failure

/-- One to six hexadecimal digits in braces, which are the number of a character. -/
def unicodeEscape : Reader Char := do
  expect "\x7b"
  let digits ← span fun c => (hexDigit? c).isSome
  guard (1 ≤ digits.length ∧ digits.length ≤ 6)
  expect "\x7d"
  let n := digits.foldl (fun n c => n * 16 + (hexDigit? c).getD 0) 0
  if n.isValidChar then return Char.ofNat n else failure

/-- The character that bytes encode, if they encode exactly one. -/
def decodeChar? (bytes : List UInt8) : Option Char :=
  match (String.fromUTF8? ⟨bytes.toArray⟩).map String.toList with
  | some [c] => some c
  | _ => none

/-- A character given byte by byte, each byte as an escape: `more` further ones may follow the
bytes that were read. -/
def encodedChar (bytes : List UInt8) : (more : Nat) → Reader Char
  | 0 =>
    match decodeChar? bytes with
    | some c => return c
    | none => failure
  | more + 1 => do
    match decodeChar? bytes with
    | some c => return c
    | none =>
      expect "\\x"
      encodedChar (bytes ++ [← byteEscape]) more

/-- What follows a backslash. In a text a byte escape starts a character of up to `bytes` bytes;
without such a number it stands for itself. -/
def escape (bytes : Option Nat) : Reader Char := do
  match ← next with
  | '\'' => return '\''
  | '"' => return '"'
  | '\\' => return '\\'
  | 'n' => return '\n'
  | 'r' => return '\r'
  | 't' => return '\t'
  | '0' => return '\x00'
  | 'x' =>
    let first ← byteEscape
    match bytes with
    | some bytes => encodedChar [first] (bytes - 1)
    | none => return Char.ofNat first.toNat
  | 'u' => unicodeEscape
  | _ => failure

/-- Takes a line end. -/
def lineEnd : Reader Bool := do
  if ← accept "\n" then return true else accept "\r\n"

/-- May the character stand in the indentation that a continued line drops? Empty lines are dropped
with it. -/
def isIndentation (c : Char) : Bool :=
  c == ' ' || c == '\t' || c == '\n' || c == '\r'

/-- The characters up to the closing quote. A backslash at the end of a line continues the text
behind the indentation of what follows. The answer is `none` for an escape that cannot be read with a
quote somewhere behind it; without any quote left the reader fails. Each round takes a character, so
the length of the text bounds the rounds. -/
def quoted (bytes : Option Nat) :
    (rounds : Nat) → (taken : List Char) → Reader (Option (List Char))
  | 0, _ => failure
  | rounds + 1, taken => do
    match ← next with
    | '"' => return some taken.reverse
    | '\\' =>
      if ← lineEnd then
        let _ ← span isIndentation
        quoted bytes rounds taken
      else
        match ← attempt (escape bytes) with
        | some c => quoted bytes rounds (c :: taken)
        | none =>
          guard ((← get).contains '"')
          return none
    | c => quoted bytes rounds (c :: taken)

/-- The characters up to a given end, which is taken too. -/
def before? (close : List Char) : List Char → Option (List Char × List Char)
  | [] => none
  | c :: rest =>
    if close.isPrefixOf (c :: rest) then some ([], (c :: rest).drop close.length)
    else (before? close rest).map fun (body, after) => (c :: body, after)

/-- The hash signs and the quote that open a string without escapes. -/
def rawMark : Reader (List Char) := do
  let hashes ← span (· == '#')
  expect "\""
  return hashes

/-- The characters up to a quote with as many hash signs as the string started with. -/
def rawQuoted (hashes : List Char) : Reader (List Char) := do
  match before? ('"' :: hashes) (← get) with
  | some (body, after) =>
    set after
    return body
  | none => failure

/-- Takes a string, with escapes or raw, if one is next that can be read; it fails for one that is
never closed. `letter` stands in front of it, and `bytes` is what its escapes may hold. -/
def string? (letter : String) (bytes : Option Nat) : Reader (Option (List Char)) := do
  let start ← get
  if ← accept (letter ++ "\"") then
    if let some body ← quoted bytes ((← get).length + 1) [] then return some body
  else if ← accept (letter ++ "r") then
    if let some hashes ← attempt rawMark then return some (← rawQuoted hashes)
  set start
  return none

/-- A string if one is next, whose escaped bytes make up characters. -/
def text? : Reader (Option (List Char)) :=
  string? "" (some 4)

/-- A byte string if one is next. -/
def bytes? : Reader (Option (List Char)) :=
  string? "b" none

/-- A string. -/
def string : Reader String := do
  match ← text? with
  | some body => return String.ofList body
  | none => failure

/-- A character in single quotes. -/
def character : Reader Unit := do
  expect "'"
  if (← next) == '\\' then
    let _ ← escape (some 1)
  expect "'"

/-- A byte in single quotes. The number of a character is no byte, however small. -/
def byte : Reader Unit := do
  expect "b'"
  let c ← next
  if c == '\\' then
    guard ((← peek) != some 'u')
    let _ ← escape none
  else guard (c.toNat < 128)
  expect "'"

end Reader

end SphereTrace.Ron
