/-!
# Lines of a text

A line ends at a line feed, and a carriage return just before the line feed belongs to the ending.
Nothing else ends a line, and a final line feed opens no further line.
-/

namespace RegisterMachine.Text

/-- Drops one carriage return at the end. -/
def dropReturn (line : List Char) : List Char :=
  if line.getLast? = some '\r' then line.dropLast else line

/-- The lines of a text, without their endings. -/
def lines (text : List Char) : List (List Char) :=
  let pieces := text.splitOn '\n'
  pieces.dropLast.map dropReturn ++ (pieces.getLast?.filter (!·.isEmpty)).toList

end RegisterMachine.Text
