import JumpArrows.Text.Blank

/-! # Modes of the pattern notation

A pattern is a regular expression that the value of a field may be asked to match. It stands between
braces, so it has no closing brace itself, and none of the notations that need one is ever complete.
Two of the settings that a pattern can change on its way bear on what is well formed behind
them. -/

namespace JumpArrows.Pattern

structure Mode where
  /-- Sets and word ends go by Unicode. Otherwise they go by bytes, and no part may match a byte
  outside of ASCII. -/
  unicode : Bool := true
  spaced : Bool := false
  deriving DecidableEq, Repr

namespace Mode

def letters : List Char :=
  ['i', 'm', 's', 'U', 'u', 'R', 'x']

def set (mode : Mode) (letter : Char) (on : Bool) : Mode :=
  if letter = 'u' then { mode with unicode := on }
  else if letter = 'x' then { mode with spaced := on }
  else mode

def admits (mode : Mode) (c : Char) : Bool :=
  mode.unicode || c.toNat < 0x80

end Mode

/-- The text behind the white space and comments that it starts with. A comment runs from a number
sign to the end of its line; `within` tells that the text starts within one. -/
def behindSpace (within : Bool) : List Char → List Char
  | [] => []
  | c :: s =>
    if within then behindSpace (c ≠ '\n') s
    else if Text.isBlank c then behindSpace false s
    else if c = '#' then behindSpace true s
    else c :: s

def Mode.skip (mode : Mode) (s : List Char) : List Char :=
  if mode.spaced then behindSpace false s else s

/-- The character that tells whether a hyphen in front of the text makes a range. Here white space
is passed over, but of a comment the number sign alone; if nothing is left, it is the character
right behind the hyphen. -/
def Mode.ahead? (mode : Mode) (s : List Char) : Option Char :=
  if mode.spaced then
    let rest := match s.dropWhile Text.isBlank with
      | '#' :: comment => comment.dropWhile Text.isBlank
      | rest => rest
    rest.head?.or s.head?
  else s.head?

/-- The height of a row of parts of the given heights: one part is as high as it is by itself, and
several together are one higher than the highest. -/
def rowHeight : List Nat → Nat
  | [] => 0
  | [h] => h
  | hs => hs.foldl max 0 + 1

end JumpArrows.Pattern
