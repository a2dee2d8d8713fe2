import JumpArrows.Proofs.TrackPicture

/-! # Routing is first fit on spans

The search for a column reads glyphs, cell by cell, in a grid that also holds markers and
horizontals. What it finds is what first fit finds on the bare spans of the tracks before. -/

namespace JumpArrows

/-- Every track lies in the first column in which it meets none of the tracks before it. -/
def FirstFit (before : List Track) : List Track → Prop
  | [] => True
  | t :: tracks =>
    IsLeast {c | 1 ≤ c ∧ ∀ u ∈ before, u.column = c → ¬ u.edge.Overlaps t.edge} t.column ∧
      FirstFit (before ++ [t]) tracks

def Column.bare (cells : Column) : Column :=
  cells.map fun glyph => if glyph.isTrack then glyph else .empty

theorem Column.glyph_bare (cells : Column) (row : ℕ) :
    cells.bare.glyph row = if (cells.glyph row).isTrack then cells.glyph row else .empty := by
  rw [Column.glyph, Column.glyph, bare, Array.getElem?_map]
  cases cells[row]? <;> simp

theorem Column.isFree_bare (e : Edge) (cells : Column) : cells.bare.isFree e = cells.isFree e := by
  have htrack (row : ℕ) : (cells.bare.glyph row).isTrack = (cells.glyph row).isTrack := by
    rw [glyph_bare]
    cases cells.glyph row <;> rfl
  rw [Bool.eq_iff_iff, isFree_iff, isFree_iff]
  simp only [htrack]

namespace Grid

/-- A grid without its markers and horizontals. -/
def bare (g : Grid) : Grid :=
  ⟨g.rows, .empty g.rows, g.tracks.map Column.bare⟩

theorem firstFree_bare (g : Grid) (e : Edge) : g.bare.firstFree e = g.firstFree e := by
  have hfree : Column.isFree e ∘ Column.bare = Column.isFree e := by
    funext cells
    exact Column.isFree_bare e cells
  rw [firstFree, bare, List.findIdx_map, hfree, firstFree]

theorem route_bare (g : Grid) (e : Edge) : (g.bare.route e).2 = (g.route e).2 := by
  by_cases he : e.hi < g.rows
  · rw [route_of_fits he, route_of_fits (show e.hi < g.bare.rows from he), firstFree_bare]
  · rw [route_of_not_fits he, route_of_not_fits (show ¬ e.hi < g.bare.rows from he)]

/-- A run assigns columns to the edges that fit, in their order. -/
theorem edges_routeAll (g : Grid) (edges : List Edge) :
    (g.routeAll edges).2.map Track.edge = edges.filter (·.hi < g.rows) := by
  induction edges generalizing g with
  | nil => rfl
  | cons e edges ih =>
    by_cases he : e.hi < g.rows
    · rw [routeAll_cons_of_fits he, List.filter_cons_of_pos (by simpa using he), List.map_cons, ih,
        rows_place]
    · rw [routeAll_cons_of_not_fits he, List.filter_cons_of_neg (by simpa using he), ih]

/-- If all edges fit, each has a track. -/
theorem edges_routeAll_of_fits {rows : ℕ} {edges : List Edge} (h : ∀ e ∈ edges, e.hi < rows) :
    ((empty rows).routeAll edges).2.map Track.edge = edges := by
  rw [edges_routeAll, List.filter_eq_self]
  exact fun e he => decide_eq_true (h e he)

theorem Shows.firstFit_routeAll {g : Grid} {tracks : List Track} (h : g.Shows tracks)
    (edges : List Edge) : FirstFit tracks (g.routeAll edges).2 := by
  induction edges generalizing g tracks with
  | nil => trivial
  | cons e edges ih =>
    by_cases he : e.hi < g.rows
    · rw [routeAll_cons_of_fits he]
      exact ⟨h.isLeast_firstFree e, ih (h.place he)⟩
    · rw [routeAll_cons_of_not_fits he]
      exact ih h

/-- Routing assigns columns by first fit on the spans of the edges that fit, and makes as many
columns as that takes. Without markers and horizontals it would choose the same columns. -/
theorem routeAll_firstFit (rows : ℕ) (edges : List Edge) :
    ((empty rows).routeAll edges).2.map Track.edge = edges.filter (·.hi < rows) ∧
      FirstFit [] ((empty rows).routeAll edges).2 ∧
      ((empty rows).routeAll edges).1.depth =
        (((empty rows).routeAll edges).2.map Track.column).foldr max 0 + 1 ∧
      ∀ (g : Grid) (e : Edge), (g.bare.route e).2 = (g.route e).2 := by
  have h := (shows_empty rows).routeAll edges
  rw [List.nil_append] at h
  exact ⟨edges_routeAll _ edges, (shows_empty rows).firstFit_routeAll edges, h.depth, route_bare⟩

example : ((empty 10).routeAll [.between 0 4, .between 2 8, .between 6 9]).2.map Track.column =
    [1, 2, 1] := by
  decide

end Grid

end JumpArrows
