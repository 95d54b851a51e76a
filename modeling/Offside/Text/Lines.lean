/-! Lines of a text. A line ends at a line feed, a carriage return or both together, at a
vertical tab or a form feed, at one of the separators of files, groups and records, at a next
line control, and at the line and paragraph separators. What follows the last break is a line
only when it is not empty. -/
namespace Offside.Text

/-- A character that ends a line. -/
def endsLine (c : Char) : Bool :=
  c ∈ ['\n', '\r', '\x0b', '\x0c', '\x1c', '\x1d', '\x1e', '\u0085', '\u2028', '\u2029']

/-- The lines of a text, given the part of the current line that is already read, last character
first. -/
def linesFrom (current : List Char) : List Char → List (List Char)
  | [] => if current.isEmpty then [] else [current.reverse]
  | '\r' :: '\n' :: rest => current.reverse :: linesFrom [] rest
  | c :: rest =>
    if endsLine c then current.reverse :: linesFrom [] rest else linesFrom (c :: current) rest

/-- The lines of a text, without what ends them. -/
def lines (text : String) : List String :=
  (linesFrom [] text.toList).map String.ofList

/-- A text with every carriage return, and a line feed after it, made into one line feed. -/
def unifyBreaks : List Char → List Char
  | [] => []
  | '\r' :: '\n' :: rest => '\n' :: unifyBreaks rest
  | c :: rest => (if c = '\r' then '\n' else c) :: unifyBreaks rest

end Offside.Text
