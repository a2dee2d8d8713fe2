import JumpArrows.Pattern.Bracket
import JumpArrows.Pattern.Group

/-! # Well-formed patterns

A text is a pattern if it can be read to its end with every group closed, every repetition behind
something to repeat, no two groups of one name, and nothing too deep inside of something else. -/

namespace JumpArrows.Pattern

/-- A part of a row. A setting of the mode cannot be repeated. -/
inductive Part where
  | expression (height : Nat)
  | setting
  deriving DecidableEq, Repr

def Part.height : Part → Nat
  | .expression h => h
  | .setting => 0

/-- A group that is still open, or the whole: the mode behind it, the heights of its finished
alternatives, and the parts of the one that is being read, latest first. -/
structure Level where
  mode : Mode
  alternatives : List Nat
  row : List Part
  deriving DecidableEq, Repr

namespace Level

def empty (mode : Mode) : Level :=
  ⟨mode, [], []⟩

def add (l : Level) (part : Part) : Level :=
  { l with row := part :: l.row }

def branch (l : Level) : Level :=
  { l with alternatives := rowHeight (l.row.map Part.height) :: l.alternatives, row := [] }

def repeat? (l : Level) : Option Level :=
  match l.row with
  | .expression h :: row => some { l with row := .expression (h + 1) :: row }
  | _ => none

def height (l : Level) : Nat :=
  rowHeight l.branch.alternatives

end Level

structure Reader where
  mode : Mode
  names : List (List Char)
  here : Level
  outer : List Level
  deriving DecidableEq, Repr

namespace Reader

def start : Reader :=
  ⟨{}, [], .empty {}, []⟩

def add (r : Reader) (height : Nat) : Reader :=
  { r with here := r.here.add (.expression height) }

/-- Opens a group or takes a setting. -/
def enter? (r : Reader) : Opening → Option Reader
  | .setting mode => some { r with mode, here := r.here.add .setting }
  | .group mode name? =>
    if name?.any r.names.contains then none
    else some ⟨mode, name?.toList ++ r.names, .empty r.mode, r.here :: r.outer⟩

def leave? (r : Reader) : Option Reader :=
  match r.outer with
  | [] => none
  | l :: outer =>
    some { r with mode := r.here.mode, here := l.add (.expression (r.here.height + 1)), outer }

/-- Reads the part that a text starts with. A brace would count repetitions, but it is never
closed. -/
def step? (r : Reader) : List Char → Option (Reader × List Char)
  | [] => none
  | '(' :: s => do
    let (opening, rest) ← Opening.parse? r.mode s
    return (← r.enter? opening, rest)
  | ')' :: s => r.leave?.map (·, s)
  | '|' :: s => some ({ r with here := r.here.branch }, s)
  | '[' :: s => (Bracket.parse? r.mode s).map fun (h, rest) => (r.add h, rest)
  | '\\' :: s => (Escape.parse? r.mode s).map fun (_, rest) => (r.add 0, rest)
  | '.' :: s => if r.mode.unicode then some (r.add 0, s) else none
  | '{' :: _ => none
  | c :: s =>
    if c = '?' ∨ c = '*' ∨ c = '+' then
      r.here.repeat?.map fun here =>
        ({ r with here }, if s.head? = some '?' then s.tail else s)
    else some (r.add 0, s)

/-- True if nothing is open and nothing too high. -/
def isComplete (r : Reader) : Bool :=
  r.outer.isEmpty && r.here.height ≤ 250

def accepts (r : Reader) (s : List Char) : Bool :=
  match r.mode.skip s with
  | [] => r.isComplete
  | c :: cs =>
    match r.step? (c :: cs) with
    | none => false
    | some (r, rest) => if _h : rest.length < s.length then r.accepts rest else false
termination_by s.length

end Reader

/-- True of the texts without a closing brace that are patterns. -/
def isWellFormed (s : List Char) : Bool :=
  Reader.start.accepts s

end JumpArrows.Pattern
