import JumpArrows.Margin.Glyph

/-! # Edges

An edge joins the row of a jump to the row it leads to. Its direction says which way its corners
open; an edge that is read from outside keeps the direction it came with. -/

namespace JumpArrows

inductive Direction where
  | forward
  | backward
  | loop
  deriving DecidableEq, Repr

namespace Direction

def between (source target : Nat) : Direction :=
  if source < target then .forward else if target < source then .backward else .loop

def name : Direction → String
  | .forward => "forward"
  | .backward => "backward"
  | .loop => "self"

def sourceCorner : Direction → Glyph
  | .forward => .cornerDown
  | _ => .cornerUp

def targetCorner : Direction → Glyph
  | .backward => .cornerDown
  | _ => .cornerUp

end Direction

structure Edge where
  source : Nat
  target : Nat
  direction : Direction
  deriving DecidableEq, Repr

namespace Edge

/-- The edge between two rows, with the direction that their order gives. -/
def between (source target : Nat) : Edge :=
  ⟨source, target, .between source target⟩

def lo (e : Edge) : Nat :=
  min e.source e.target

def hi (e : Edge) : Nat :=
  max e.source e.target

/-- True of an edge whose direction is that of a jump to itself. -/
def isLoop (e : Edge) : Bool :=
  e.direction == .loop

def display (e : Edge) : String :=
  toString e.source ++ " -> " ++ toString e.target ++ " (" ++ e.direction.name ++ ")"

end Edge

end JumpArrows
