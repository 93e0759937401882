/-!
# Lines

A text is cut into lines at its line feeds; a carriage return before a line feed belongs to the
line end. What follows the last line feed is a line unless it is empty.
-/

namespace RadarCatalog.Text

/-- The lines of a text; `line` holds what is already read of the first one, the last character
    first. -/
def linesFrom (line : List Char) : List Char → List (List Char)
  | [] => if line.isEmpty then [] else [line.reverse]
  | '\r' :: '\n' :: cs => line.reverse :: linesFrom [] cs
  | '\n' :: cs => line.reverse :: linesFrom [] cs
  | c :: cs => linesFrom (c :: line) cs

/-- The lines of a text. -/
def linesOf (cs : List Char) : List (List Char) := linesFrom [] cs

end RadarCatalog.Text
