/-! # Lines of a text

A line ends at a line feed, which a carriage return in front of it belongs to. The last line need
not be ended, and a line end at the end of the text starts no further line.
-/

namespace SphereTrace.Text

/-- Drops a carriage return from the front of a line that is held backwards. -/
def dropReturn : List Char → List Char
  | '\r' :: rest => rest
  | line => line

/-- Splits at line feeds: `line` is what has been read of the current line, backwards. -/
def linesFrom (line : List Char) : List Char → List (List Char)
  | [] => if line.isEmpty then [] else [line.reverse]
  | c :: rest =>
    if c = '\n' then (dropReturn line).reverse :: linesFrom [] rest
    else linesFrom (c :: line) rest

def lines (cs : List Char) : List (List Char) :=
  linesFrom [] cs

/-- Does the text end with a line feed? -/
def endsLine (s : String) : Bool :=
  s.toList.getLast? == some '\n'

end SphereTrace.Text
