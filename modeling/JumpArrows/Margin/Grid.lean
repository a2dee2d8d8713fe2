import JumpArrows.Jump.Edge

/-! # The grid of a margin

The margin of a routine has one row per instruction. Column 0 holds the markers; every further
column holds tracks, of which no two share a row. An edge goes into the first column whose cells
are free of track glyphs on all rows of its span, and if there is none into a new one. On the rows
of its ends the way from the marker to its corner is filled with horizontals, which never take a
cell. -/

namespace JumpArrows

abbrev Column := Array Glyph

structure Grid where
  rows : Nat
  markers : Column
  tracks : List Column
  deriving DecidableEq, Repr

namespace Column

def empty (rows : Nat) : Column :=
  Array.replicate rows .empty

def glyph (cells : Column) (row : Nat) : Glyph :=
  cells[row]?.getD .empty

/-- True if no row of an edge's span holds a track glyph. -/
def isFree (e : Edge) (cells : Column) : Bool :=
  (List.range' e.lo (e.hi + 1 - e.lo)).all fun row => !(cells.glyph row).isTrack

/-- Draws the track of an edge: the bar inside the span, the corner of the source, and that of the
target, which wins if both ends are one row. -/
def drawTrack (e : Edge) (cells : Column) : Column :=
  cells.mapIdx fun row glyph =>
    if row = e.target then e.direction.targetCorner
    else if row = e.source then e.direction.sourceCorner
    else if e.lo < row ∧ row < e.hi then .vertical
    else glyph

def passed : Glyph → Glyph
  | .empty => .horizontal
  | glyph => glyph

/-- Draws the ways from the markers of an edge to its corners, in a column between them. -/
def drawWays (e : Edge) (cells : Column) : Column :=
  (cells.modify e.source passed).modify e.target passed

/-- The marker of a row that jumps; a row that is jumped to keeps its own. -/
def left : Glyph → Glyph
  | .entryMarker => .entryMarker
  | _ => .exitMarker

def drawMarkers (e : Edge) (cells : Column) : Column :=
  (cells.modify e.source left).modify e.target fun _ => .entryMarker

end Column

structure Track where
  edge : Edge
  column : Nat
  deriving DecidableEq, Repr

namespace Grid

def empty (rows : Nat) : Grid :=
  ⟨rows, .empty rows, []⟩

def columns (g : Grid) : List Column :=
  g.markers :: g.tracks

def depth (g : Grid) : Nat :=
  g.columns.length

/-- The glyph of a cell, empty outside the grid. -/
def cell (g : Grid) (row column : Nat) : Glyph :=
  (g.columns.getD column #[]).glyph row

def row (g : Grid) (row : Nat) : List Glyph :=
  g.columns.map (·.glyph row)

/-- The first column that is free for an edge, which may be the one behind the last. -/
def firstFree (g : Grid) (e : Edge) : Nat :=
  g.tracks.findIdx (Column.isFree e) + 1

/-- The grid with a column more at its end, if that is what the given column takes to exist. -/
def grow (g : Grid) (column : Nat) : Grid :=
  if column < g.depth then g else { g with tracks := g.tracks ++ [.empty g.rows] }

def draw (g : Grid) (e : Edge) (column : Nat) : Grid :=
  { g with
    markers := g.markers.drawMarkers e
    tracks := g.tracks.mapIdx fun i cells =>
      if i + 1 < column then cells.drawWays e
      else if i + 1 = column then cells.drawTrack e
      else cells }

/-- Routes an edge through the first free column. An edge that reaches beyond the last row gets no
column, and nothing is drawn. -/
def route (g : Grid) (e : Edge) : Grid × Option Nat :=
  if e.hi < g.rows then
    let column := g.firstFree e
    ((g.grow column).draw e column, some column)
  else (g, none)

def routeAll (g : Grid) : List Edge → Grid × List Track
  | [] => (g, [])
  | e :: es =>
    let (g, column?) := g.route e
    let (g, tracks) := g.routeAll es
    (g, (column?.map (Track.mk e)).toList ++ tracks)

/-- The margin text of a row, deepest column first. -/
def rowText (g : Grid) (alphabet : Alphabet) (row : Nat) : String :=
  String.ofList ((g.row row).reverse.map alphabet.char)

def picture (g : Grid) (alphabet : Alphabet) : List String :=
  (List.range g.rows).map (g.rowText alphabet)

end Grid

end JumpArrows
