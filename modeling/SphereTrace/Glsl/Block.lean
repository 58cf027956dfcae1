/-! # Lines of source text

Source in the shading language is put together from lines; a block is a head, a body that is
indented, and braces around the body. Nothing is checked: heads and lines are any text.
-/

namespace SphereTrace.Glsl

/-- Lines without their line ends. -/
abbrev Lines :=
  List String

/-- Moves lines to the right. Empty lines stay empty. -/
def indent (width : Nat) (ls : Lines) : Lines :=
  ls.map fun l => if l = "" then l else String.ofList (List.replicate width ' ') ++ l

/-- A head and an indented body in braces. -/
def blockBy (width : Nat) (head : String) (body : Lines) : Lines :=
  (head ++ " \x7b") :: indent width body ++ ["\x7d"]

/-- A block that is indented by two, as all fixed source here is. -/
def block (head : String) (body : Lines) : Lines :=
  blockBy 2 head body

/-- What follows the head and body of a block in a chain: the line that closes a block opens the
next one. -/
def chainRest : List (String × Lines) → Lines
  | [] => ["\x7d"]
  | (head, body) :: rest => ("\x7d " ++ head ++ " \x7b") :: indent 2 body ++ chainRest rest

/-- Blocks that continue each other, as `if` and `else` do. -/
def chain : List (String × Lines) → Lines
  | [] => []
  | (head, body) :: rest => (head ++ " \x7b") :: indent 2 body ++ chainRest rest

/-- A type of several fields. -/
def record (head : String) (fields : Lines) : Lines :=
  (head ++ " \x7b") :: indent 2 fields ++ ["\x7d;"]

/-- A head with a body on the same line. -/
def oneLine (head body : String) : String :=
  head ++ " \x7b " ++ body ++ " \x7d"

/-- The text of lines, each ended. -/
def text (ls : Lines) : String :=
  String.join (ls.map (· ++ "\n"))

end SphereTrace.Glsl
