import JumpArrows.Jump.Finding
import JumpArrows.Listing.Block
import JumpArrows.Margin.Grid

/-! # Layouts

The layout of a routine holds its edges, the column of each, and the margin text of every row. -/

namespace JumpArrows

structure Layout where
  label : Option String
  instructions : Nat
  edges : List Edge
  tracks : List Track
  depth : Nat
  decorations : List String
  deriving DecidableEq, Repr

structure Summary where
  label : Option String
  instructions : Nat
  forward : Nat
  backward : Nat
  loops : Nat
  depth : Nat
  deriving DecidableEq, Repr

namespace Layout

def ofLines (config : Config) (lines : List Instruction) : Layout :=
  let edges := Edge.ofLines config lines
  let drawn := (Grid.empty lines.length).routeAll edges
  { label := none
    instructions := lines.length
    edges
    tracks := drawn.2
    depth := drawn.1.depth
    decorations := drawn.1.picture config.alphabet }

def ofRoutine (config : Config) (r : Routine) : Layout :=
  { ofLines config r.lines with label := r.label }

def summary (l : Layout) : Summary where
  label := l.label
  instructions := l.instructions
  forward := l.edges.countP (·.direction == .forward)
  backward := l.edges.countP (·.direction == .backward)
  loops := l.edges.countP (·.direction == .loop)
  depth := l.depth

def columnOf (l : Layout) (e : Edge) : Option Nat :=
  (l.tracks.find? (·.edge == e)).map (·.column)

end Layout

end JumpArrows
