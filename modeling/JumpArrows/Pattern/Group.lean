import JumpArrows.Pattern.Mode
import JumpArrows.Text.Alphanumeric

/-! # Groups in patterns

An opening parenthesis starts a group, which may have a name or settings of its own, or it is a mere
setting of the mode for what follows. -/

namespace JumpArrows.Pattern

inductive Opening where
  | group (mode : Mode) (name? : Option (List Char))
  | setting (mode : Mode)
  deriving DecidableEq, Repr

namespace Opening

/-- The mode after settings, their letters from the last to the first, and what follows them from
the sign that ends them. Letters behind a hyphen are switched off; no sign may be used twice, and
the hyphen must not stand last. -/
def settings? (mode : Mode) (seen : List Char) :
    List Char → Option (Mode × List Char × List Char)
  | [] => none
  | c :: s =>
    if c = ':' ∨ c = ')' then if seen.head? = some '-' then none else some (mode, seen, c :: s)
    else if seen.contains c then none
    else if c = '-' then settings? mode (c :: seen) s
    else if Mode.letters.contains c then
      settings? (mode.set c (!seen.contains '-')) (c :: seen) s
    else none

def isName : List Char → Bool
  | [] => false
  | c :: s =>
    (c == '_' || Text.isAlphabetic c) &&
      s.all fun c => ['_', '.', '[', ']'].contains c || Text.isAlphanumeric c

def name? (s : List Char) : Option (List Char × List Char) :=
  let name := s.takeWhile (· ≠ '>')
  match s.drop name.length with
  | '>' :: rest => if isName name then some (name, rest) else none
  | _ => none

def parse? (mode : Mode) (s : List Char) : Option (Opening × List Char) :=
  match mode.skip s with
  | '?' :: 'P' :: '<' :: s => (name? s).map fun (name, rest) => (.group mode (some name), rest)
  | '?' :: '<' :: s => (name? s).map fun (name, rest) => (.group mode (some name), rest)
  | '?' :: s =>
    match settings? mode [] s with
    | some (mode, _, ':' :: rest) => some (.group mode none, rest)
    | some (mode, _ :: _, ')' :: rest) => some (.setting mode, rest)
    | _ => none
  | s => some (.group mode none, s)

end Opening

end JumpArrows.Pattern
