import JumpArrows.Pattern.Mode
import JumpArrows.Text.Hex

/-! # Escapes in patterns

A backslash makes the character behind it stand for itself, or for another one, for a set of
characters, or for a place such as the end of a word. -/

namespace JumpArrows.Pattern

inductive Escape where
  | char (c : Char)
  | set
  | place
  deriving DecidableEq, Repr

namespace Escape

def controls : List (Char × Char) :=
  [('a', '\x07'), ('f', '\x0c'), ('n', '\n'), ('r', '\r'), ('t', '\t'), ('v', '\x0b')]

def standsForItself (c : Char) : Bool :=
  c.toNat < 0x80 && !c.isAlphanum && c != '<' && c != '>'

/-- True of the letters that name one of Unicode's general categories. -/
def isCategory (c : Char) : Bool :=
  ['c', 'l', 'm', 'n', 'p', 's', 'z'].contains c.toLower

/-- The value of the given number of hexadecimal digits behind `v`, and what follows them. -/
def digits? (mode : Mode) : Nat → Nat → List Char → Option (Nat × List Char)
  | 0, v, s => some (v, s)
  | n + 1, v, s =>
    match mode.skip s with
    | c :: s => (Hex.digit? c).bind fun d => digits? mode n (16 * v + d) s
    | [] => none

/-- The escape from behind its backslash, and what follows it. A set that leaves characters out and
a word end are escapes of one mode each: by bytes the set would match more than ASCII, and by
Unicode a word end takes more than one character to see. -/
def parse? (mode : Mode) : List Char → Option (Escape × List Char)
  | [] => none
  | c :: s =>
    if c = 'x' ∨ c = 'u' ∨ c = 'U' then do
      let (v, rest) ← digits? mode (if c = 'x' then 2 else if c = 'u' then 4 else 8) 0 s
      if v.isValidChar ∧ (mode.unicode ∨ c ≠ 'x' ∨ v < 0x80) then
        return (.char (Char.ofNat v), rest)
      else none
    else if c = 'p' ∨ c = 'P' then
      match mode.skip s with
      | letter :: rest => if mode.unicode && isCategory letter then some (.set, rest) else none
      | [] => none
    else if ['d', 's', 'w'].contains c then some (.set, s)
    else if ['D', 'S', 'W'].contains c then if mode.unicode then some (.set, s) else none
    else if ['A', 'z'].contains c then some (.place, s)
    else if ['b', 'B', '<', '>'].contains c then if mode.unicode then none else some (.place, s)
    else if standsForItself c then some (.char c, s)
    else (controls.lookup c).map fun c => (.char c, s)

end Escape

end JumpArrows.Pattern
