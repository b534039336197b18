/-! # Lines of a text

A line ends at a newline, and a carriage return right before it belongs to the end. Behind the last end there
is one more line if it is not empty.
-/

namespace Breadboard.Text

/-- A line that was read back to front, without the carriage return of its end. -/
def endedLine : List Char → String
  | '\r' :: before => String.ofList before.reverse
  | line => String.ofList line.reverse

/-- The lines of a text, given what was read of the first one, back to front. -/
def linesFrom (line : List Char) : List Char → List String
  | [] => if line.isEmpty then [] else [String.ofList line.reverse]
  | c :: rest => if c = '\n' then endedLine line :: linesFrom [] rest else linesFrom (c :: line) rest

def lines (text : String) : List String :=
  linesFrom [] text.toList

end Breadboard.Text
