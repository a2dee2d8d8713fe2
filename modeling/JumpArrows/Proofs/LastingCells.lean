import JumpArrows.Proofs.CheckedCells
import JumpArrows.Proofs.ReadingTracks

/-! # What routing leaves alone

Routing an edge changes the grid within the rows of its span, up to its column, and nowhere else.
Even there a cell that a track has taken keeps its glyph, and so does a marker of a row that is
jumped to, however many edges come later. An edge that does not fit changes nothing at all. -/

namespace JumpArrows

/-- The glyphs that are never drawn over. -/
def Glyph.Lasts (glyph : Glyph) : Prop :=
  glyph.isTrack = true ∨ glyph = .entryMarker

theorem Track.isTrack_marker (tracks : List Track) (row : ℕ) :
    (marker tracks row).isTrack = false := by
  rw [marker]
  split_ifs <;> rfl

namespace Grid

/-- The grids that routing leads to from an empty one. -/
def Reachable (rows : ℕ) (g : Grid) : Prop :=
  ∃ edges, ((empty rows).routeAll edges).1 = g

/-- What lasts in the one grid stands in the other. -/
def Keeps (g g' : Grid) : Prop :=
  ∀ row column, (g.cell row column).Lasts → g'.cell row column = g.cell row column

theorem Keeps.refl (g : Grid) : g.Keeps g :=
  fun _ _ _ => rfl

theorem Keeps.trans {g g' g'' : Grid} (h : g.Keeps g') (h' : g'.Keeps g'') : g.Keeps g'' := by
  intro row column hlasts
  have hcell := h row column hlasts
  rw [h' row column (hcell ▸ hlasts), hcell]

variable {g : Grid} {e : Edge} {row column : ℕ}

/-! ## Outside the span -/

section Frame

variable (h : g.Rectangular) (he : e.hi < g.rows)

include h he

theorem cell_place_of_deeper (hdeeper : g.firstFree e < column) :
    (g.place e).cell row column = g.cell row column := by
  obtain ⟨c, rfl⟩ := Nat.exists_eq_add_of_lt hdeeper
  rw [cell_place_succ h he, if_neg (by omega), if_neg (by omega)]

theorem cell_place_of_uncovered (hrow : ¬ e.Covers row) :
    (g.place e).cell row column = g.cell row column := by
  have hends : ¬ e.EndsAt row := fun hends => hrow (e.covers_of_endsAt row hends)
  cases column with
  | zero =>
    rw [Edge.EndsAt, not_or] at hends
    rw [cell_place_zero h he, if_neg hends.2, if_neg hends.1]
  | succ c =>
    rw [cell_place_succ h he, if_neg hends, (e.trackGlyph?_eq_none_iff row).mpr hrow]
    split_ifs <;> rfl

end Frame

/-! ## Cells that last -/

variable {tracks : List Track}

theorem Shows.keeps_place (h : g.Shows tracks) (he : e.hi < g.rows) : g.Keeps (g.place e) := by
  intro row column hlasts
  cases column with
  | zero =>
    have hentry : g.cell row 0 = .entryMarker := by
      refine hlasts.resolve_left ?_
      rw [h.cell, Track.cell, Track.isTrack_marker]
      exact Bool.false_ne_true
    rw [cell_place_zero h.rectangular he, hentry]
    split_ifs <;> rfl
  | succ c =>
    have htrack : (g.cell row (c + 1)).isTrack = true := by
      refine hlasts.resolve_right ?_
      rw [h.cell_succ]
      exact Track.glyph_ne_marker.1
    rw [cell_place_succ h.rectangular he, Column.passed_of_isTrack htrack]
    split_ifs with hlt hends heq
    · rfl
    · rfl
    · -- the chosen column holds no track glyph on the span, so the row lies outside
      have hrow : ¬ e.Covers row := by
        intro hcover
        have hfree := (g.isLeast_firstFree e).1.2 row hcover
        rw [← heq, htrack] at hfree
        cases hfree
      rw [(e.trackGlyph?_eq_none_iff row).mpr hrow, Option.getD_none]
    · rfl

/-- However many edges are routed later, what lasts is still there. -/
theorem Shows.keeps_routeAll (h : g.Shows tracks) (edges : List Edge) :
    g.Keeps (g.routeAll edges).1 := by
  induction edges generalizing g tracks with
  | nil => exact Keeps.refl g
  | cons e edges ih =>
    by_cases he : e.hi < g.rows
    · rw [routeAll_cons_of_fits he]
      exact (h.keeps_place he).trans (ih (h.place he))
    · rw [routeAll_cons_of_not_fits he]
      exact ih h

theorem depth_place_bounds (g : Grid) (e : Edge) :
    g.depth ≤ (g.place e).depth ∧ (g.place e).depth ≤ g.depth + 1 := by
  have hle := g.firstFree_le_depth e
  rw [depth_place]
  omega

theorem Reachable.shows {rows : ℕ} (h : Reachable rows g) :
    g.rows = rows ∧ ∃ tracks, g.Shows tracks := by
  obtain ⟨edges, rfl⟩ := h
  exact ⟨rows_routeAll _ edges, _, (shows_empty rows).routeAll edges⟩

/-- Routing an edge of any rows and any direction on a grid that routing has made. Every column has
its rows, and no cell is touched that is not there. The edge is refused exactly if it reaches beyond
the last row, and then the grid is the same; else the grid gets at most one column more, and only
cells in the rows of the span change that lie no deeper than the column of the edge. Track glyphs
and entry markers stay for ever. -/
theorem route_frame {rows : ℕ} {g : Grid} (h : Reachable rows g) (e : Edge) :
    (∀ cells ∈ g.columns, cells.size = rows) ∧
      g.route? e = some (g.route e) ∧
      ((g.route e).2 = none ↔ rows ≤ e.hi) ∧
      (rows ≤ e.hi → (g.route e).1 = g) ∧
      (∀ column ∈ (g.route e).2,
        g.depth ≤ (g.route e).1.depth ∧ (g.route e).1.depth ≤ g.depth + 1 ∧
          ∀ row c, column < c ∨ ¬ e.Covers row → (g.route e).1.cell row c = g.cell row c) ∧
      ∀ later, g.Keeps (g.routeAll later).1 := by
  obtain ⟨rfl, tracks, hshows⟩ := h.shows
  have hrect := hshows.rectangular
  refine ⟨rectangular_iff.mp hrect, route?_eq hrect e, ?_⟩
  by_cases he : e.hi < g.rows
  · rw [route_of_fits he]
    refine ⟨iff_of_false (Option.some_ne_none _) he.not_ge, fun hbeyond => absurd he hbeyond.not_gt,
      ?_, hshows.keeps_routeAll⟩
    intro column hcolumn
    obtain rfl : g.firstFree e = column := Option.some_inj.mp hcolumn
    obtain ⟨hdepth, hdepth'⟩ := g.depth_place_bounds e
    refine ⟨hdepth, hdepth', fun row c hcell => ?_⟩
    rcases hcell with hdeeper | hrow
    · exact cell_place_of_deeper hrect he hdeeper
    · exact cell_place_of_uncovered hrect he hrow
  · rw [route_of_not_fits he]
    exact ⟨iff_of_true rfl (not_lt.mp he), fun _ => rfl,
      fun column hcolumn => absurd hcolumn (Option.not_mem_none column), hshows.keeps_routeAll⟩

/-- Two jumps, and a third edge whose direction is not that of its rows. It finds room in the first
column, where a way to the second one passes. An edge beyond the last row is refused. -/
theorem route_frame_passed :
    Reachable 4 ((empty 4).routeAll [.between 1 3, .between 0 2]).1 ∧
      ((empty 4).routeAll [.between 1 3, .between 0 2]).1.route? ⟨0, 0, .forward⟩ =
        some (((empty 4).routeAll [.between 1 3, .between 0 2]).1.route ⟨0, 0, .forward⟩) ∧
      (((empty 4).routeAll [.between 1 3, .between 0 2]).1.route ⟨0, 0, .forward⟩).2 = some 1 ∧
      (((empty 4).routeAll [.between 1 3, .between 0 2]).1.route (.between 9 1)).1 =
        ((empty 4).routeAll [.between 1 3, .between 0 2]).1 ∧
      ∀ later, ((empty 4).routeAll [.between 1 3, .between 0 2]).1.Keeps
        (((empty 4).routeAll [.between 1 3, .between 0 2]).1.routeAll later).1 := by
  have h : Reachable 4 ((empty 4).routeAll [.between 1 3, .between 0 2]).1 := ⟨_, rfl⟩
  obtain ⟨-, hroute, -, -, -, hkeeps⟩ := route_frame h ⟨0, 0, .forward⟩
  exact ⟨h, hroute, by decide, (route_frame h (.between 9 1)).2.2.2.1 (by decide), hkeeps⟩

end Grid

end JumpArrows
