/-! # Glyphs of the margin

A cell of the margin holds a glyph; an alphabet gives each glyph the character it is drawn with. -/

namespace JumpArrows

/-- What a cell shows. A corner goes up or down with the line that leaves it, and an entry marker
stands where a row is jumped to. -/
inductive Glyph where
  | empty
  | vertical
  | cornerUp
  | cornerDown
  | horizontal
  | entryMarker
  | exitMarker
  deriving DecidableEq, Repr, Inhabited

/-- True of the glyphs that make up a jump's track; a cell that holds one is taken. -/
def Glyph.isTrack : Glyph → Bool
  | .vertical | .cornerUp | .cornerDown => true
  | _ => false

/-- The characters that glyphs are drawn with. Without a character of its own, a horizontal is
drawn as a blank. -/
structure Alphabet where
  vertical : Char
  cornerDown : Char
  cornerUp : Char
  exitMarker : Char
  entryMarker : Char
  blank : Char
  horizontal : Option Char
  deriving DecidableEq, Repr

namespace Alphabet

def boxes : Alphabet where
  vertical := '│'
  cornerDown := '┌'
  cornerUp := '└'
  exitMarker := '<'
  entryMarker := '>'
  blank := ' '
  horizontal := none

def ascii : Alphabet where
  vertical := '|'
  cornerDown := '.'
  cornerUp := '\''
  exitMarker := '<'
  entryMarker := '>'
  blank := ' '
  horizontal := none

def withHorizontal (a : Alphabet) (c : Char) : Alphabet :=
  { a with horizontal := some c }

def char (a : Alphabet) : Glyph → Char
  | .empty => a.blank
  | .vertical => a.vertical
  | .cornerUp => a.cornerUp
  | .cornerDown => a.cornerDown
  | .horizontal => a.horizontal.getD a.blank
  | .entryMarker => a.entryMarker
  | .exitMarker => a.exitMarker

end Alphabet

end JumpArrows
