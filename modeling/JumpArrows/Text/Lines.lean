/-! # Lines of a text

A text is cut at its line feeds. The cut yields one piece more than there are line feeds; the lines
are the pieces without the empty one that a final line feed leaves behind. -/

namespace JumpArrows.Text

def isLineEnd (c : Char) : Bool :=
  c == '\r' || c == '\n'

/-- The lines of a sequence, each with the `sep` that ends it; a last one may lack it. -/
def cutLines {α : Type} [BEq α] (sep : α) (s : List α) : List (List α) :=
  let pieces := s.splitOn sep
  let last := pieces.getLastD []
  pieces.dropLast.map (· ++ [sep]) ++ if last.isEmpty then [] else [last]

def dropReturn (s : List Char) : List Char :=
  if s.getLast? = some '\r' then s.dropLast else s

/-- The lines of a text. A carriage return in front of a line feed belongs to the line's end; on a
last line without a line feed it belongs to the line. -/
def lines (s : List Char) : List (List Char) :=
  let pieces := s.splitOn '\n'
  let last := pieces.getLastD []
  pieces.dropLast.map dropReturn ++ if last.isEmpty then [] else [last]

def endsLine (s : List Char) : Bool :=
  s.getLast? == some '\n'

end JumpArrows.Text
