/-! Lines of a text. A line ends at a line feed, or at the end of the text when that
stretch is not empty; one carriage return before a line feed belongs to the line end. -/
namespace HeaderRecovery.Text

/-- Drops one carriage return at the end. -/
def dropReturn (line : List Char) : List Char :=
  if line.getLast? = some '\r' then line.dropLast else line

/-- The ends of the stretches that a line feed closes, then the open stretch if any. -/
def closeLines : List (List Char) → List (List Char)
  | [] => []
  | [last] => if last = [] then [] else [last]
  | piece :: rest => dropReturn piece :: closeLines rest

def lines (text : String) : List String :=
  (closeLines (text.toList.splitOn '\n')).map String.ofList

end HeaderRecovery.Text
