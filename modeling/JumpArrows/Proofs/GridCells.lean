import JumpArrows.Margin.Grid
import Mathlib.Data.List.GetD
import Mathlib.Order.Bounds.Basic
import Mathlib.Tactic

/-! # The cells of a grid

What routing one edge does to every cell, and how its column is chosen. Cells outside the grid are
empty, so these facts carry no bounds on rows and columns; the grid only has to be rectangular. -/

namespace JumpArrows

namespace Edge

variable (e f : Edge) (row : ℕ)

def Covers : Prop :=
  e.lo ≤ row ∧ row ≤ e.hi

def EndsAt : Prop :=
  row = e.source ∨ row = e.target

def Overlaps : Prop :=
  ∃ row, e.Covers row ∧ f.Covers row

instance : Decidable (e.EndsAt row) := inferInstanceAs (Decidable (_ ∨ _))

theorem lo_le_hi : e.lo ≤ e.hi :=
  min_le_max

theorem overlaps_iff : e.Overlaps f ↔ e.lo ≤ f.hi ∧ f.lo ≤ e.hi := by
  have he := e.lo_le_hi
  have hf := f.lo_le_hi
  constructor
  · rintro ⟨row, ⟨hlo, hhi⟩, hlo', hhi'⟩
    exact ⟨hlo.trans hhi', hlo'.trans hhi⟩
  · rintro ⟨hef, hfe⟩
    exact ⟨max e.lo f.lo, ⟨le_max_left _ _, max_le he hfe⟩, le_max_right _ _, max_le hef hf⟩

theorem covers_iff : e.Covers row ↔ e.EndsAt row ∨ (e.lo < row ∧ row < e.hi) := by
  simp only [Covers, EndsAt, lo, hi]
  omega

theorem endsAt_source : e.EndsAt e.source := .inl rfl

theorem endsAt_target : e.EndsAt e.target := .inr rfl

theorem covers_of_endsAt (h : e.EndsAt row) : e.Covers row :=
  (e.covers_iff row).mpr (.inl h)

/-- The glyph that the edge's track puts on a row. -/
def trackGlyph? : Option Glyph :=
  if row = e.target then some e.direction.targetCorner
  else if row = e.source then some e.direction.sourceCorner
  else if e.lo < row ∧ row < e.hi then some .vertical
  else none

theorem trackGlyph?_eq_none_iff : e.trackGlyph? row = none ↔ ¬ e.Covers row := by
  rw [trackGlyph?, covers_iff, EndsAt]
  split_ifs with htarget hsource hinside
  · simp [htarget]
  · simp [hsource]
  · simp [hinside]
  · simp [htarget, hsource, hinside]

end Edge

theorem Direction.isTrack_sourceCorner (d : Direction) : d.sourceCorner.isTrack = true := by
  cases d <;> rfl

theorem Direction.isTrack_targetCorner (d : Direction) : d.targetCorner.isTrack = true := by
  cases d <;> rfl

theorem Edge.isTrack_of_trackGlyph? {e : Edge} {row : ℕ} {glyph : Glyph}
    (h : e.trackGlyph? row = some glyph) : glyph.isTrack = true := by
  rw [trackGlyph?] at h
  split_ifs at h <;> cases h
  · exact e.direction.isTrack_targetCorner
  · exact e.direction.isTrack_sourceCorner
  · rfl

namespace Column

variable (e : Edge) (cells : Column) (row : ℕ)

theorem passed_of_isTrack {glyph : Glyph} (h : glyph.isTrack = true) : passed glyph = glyph := by
  cases glyph <;> first | rfl | cases h

@[simp] theorem passed_passed (glyph : Glyph) : passed (passed glyph) = passed glyph := by
  cases glyph <;> rfl

@[simp] theorem glyph_empty (rows : ℕ) : (empty rows).glyph row = .empty := by
  by_cases h : row < rows <;> simp [glyph, empty, h]

theorem glyph_of_size_le (h : cells.size ≤ row) : cells.glyph row = .empty := by
  simp [glyph, h]

@[simp] theorem size_empty (rows : ℕ) : (empty rows).size = rows := by
  simp [empty]

@[simp] theorem size_drawTrack : (cells.drawTrack e).size = cells.size := by
  simp [drawTrack]

@[simp] theorem size_drawWays : (cells.drawWays e).size = cells.size := by
  simp [drawWays]

@[simp] theorem size_drawMarkers : (cells.drawMarkers e).size = cells.size := by
  simp [drawMarkers]

theorem isFree_iff :
    cells.isFree e = true ↔ ∀ row, e.Covers row → (cells.glyph row).isTrack = false := by
  have he := e.lo_le_hi
  simp only [isFree, List.all_eq_true, List.mem_range'_1, Bool.not_eq_true', Edge.Covers]
  exact forall_congr' fun row => imp_congr_left (by omega)

variable {cells}

theorem glyph_modify {i : ℕ} (hi : i < cells.size) (f : Glyph → Glyph) :
    Column.glyph (cells.modify i f) row =
      if row = i then f (cells.glyph row) else cells.glyph row := by
  rw [glyph, glyph, Array.getElem?_modify]
  by_cases h : row = i
  · subst h
    simp [hi]
  · rw [if_neg h, if_neg (Ne.symm h)]

/-- A track overwrites its span and nothing else. -/
theorem glyph_drawTrack (he : e.hi < cells.size) :
    (cells.drawTrack e).glyph row = (e.trackGlyph? row).getD (cells.glyph row) := by
  by_cases hrow : row < cells.size
  · have hcell : cells[row]? = some (cells.glyph row) := by simp [glyph, hrow]
    rw [glyph, drawTrack, Array.getElem?_mapIdx, hcell, Edge.trackGlyph?]
    split_ifs <;> rfl
  · have hcover : ¬ e.Covers row := fun h => hrow (lt_of_le_of_lt h.2 he)
    rw [(e.trackGlyph?_eq_none_iff row).mpr hcover, glyph_of_size_le _ _ (by simpa using hrow),
      glyph_of_size_le _ _ (by simpa using hrow)]
    rfl

/-- On the way to a deeper corner only the rows of the two ends change. -/
theorem glyph_drawWays (he : e.hi < cells.size) :
    (cells.drawWays e).glyph row =
      if e.EndsAt row then passed (cells.glyph row) else cells.glyph row := by
  have hsource : e.source < cells.size := lt_of_le_of_lt (le_max_left _ _) he
  have htarget : e.target < cells.size := lt_of_le_of_lt (le_max_right _ _) he
  rw [drawWays, glyph_modify _ (by simpa using htarget), glyph_modify _ hsource]
  by_cases ht : row = e.target
  · rw [if_pos ht, if_pos (show e.EndsAt row from .inr ht)]
    split_ifs
    · exact passed_passed _
    · rfl
  · rw [if_neg ht]
    exact if_congr ⟨.inl, fun h => h.resolve_right ht⟩ rfl rfl

theorem glyph_drawMarkers (he : e.hi < cells.size) :
    (cells.drawMarkers e).glyph row =
      if row = e.target then .entryMarker
      else if row = e.source then left (cells.glyph row)
      else cells.glyph row := by
  have hsource : e.source < cells.size := lt_of_le_of_lt (le_max_left _ _) he
  have htarget : e.target < cells.size := lt_of_le_of_lt (le_max_right _ _) he
  rw [drawMarkers, glyph_modify _ (by simpa using htarget), glyph_modify _ hsource]

end Column

namespace Grid

variable (g : Grid) (e : Edge) (row column : ℕ)

/-- Every column has one cell per row. -/
structure Rectangular : Prop where
  markers : g.markers.size = g.rows
  tracks : ∀ cells ∈ g.tracks, cells.size = g.rows

theorem depth_eq : g.depth = g.tracks.length + 1 := rfl

theorem cell_succ : g.cell row (column + 1) = (g.tracks.getD column #[]).glyph row := rfl

theorem cell_of_lt (h : column < g.tracks.length) :
    g.cell row (column + 1) = g.tracks[column].glyph row := by
  rw [cell_succ, List.getD_eq_getElem _ _ h]

theorem cell_of_depth_le (h : g.depth ≤ column) : g.cell row column = .empty := by
  rw [cell, List.getD_eq_default _ _ h]
  rfl

theorem cell_empty (rows : ℕ) : (empty rows).cell row column = .empty := by
  cases column with
  | zero => exact Column.glyph_empty row rows
  | succ column => rfl

theorem cell_of_rows_le {g : Grid} (h : g.Rectangular) {row : ℕ} (hrow : g.rows ≤ row)
    (column : ℕ) : g.cell row column = .empty := by
  cases column with
  | zero => exact Column.glyph_of_size_le _ _ (h.markers.trans_le hrow)
  | succ column =>
    by_cases hc : column < g.tracks.length
    · rw [cell_of_lt _ _ _ hc]
      exact Column.glyph_of_size_le _ _ ((h.tracks _ (List.getElem_mem hc)).trans_le hrow)
    · exact cell_of_depth_le _ _ _ (by rw [depth_eq]; omega)

theorem rectangular_empty (rows : ℕ) : (empty rows).Rectangular :=
  ⟨Column.size_empty rows, by simp [empty]⟩

/-- The column of an edge is the first one whose cells on its span hold no track glyph. Nothing
else about the grid has a say in it. -/
theorem isLeast_firstFree :
    IsLeast {c | 1 ≤ c ∧ ∀ row, e.Covers row → (g.cell row c).isTrack = false}
      (g.firstFree e) := by
  constructor
  · refine ⟨Nat.succ_pos _, ?_⟩
    by_cases h : g.tracks.findIdx (Column.isFree e) < g.tracks.length
    · have hfree := (Column.isFree_iff e _).mp (List.findIdx_getElem (w := h))
      intro row hrow
      rw [firstFree, g.cell_of_lt row _ h]
      exact hfree row hrow
    · intro row _
      rw [g.cell_of_depth_le row _ (by rw [firstFree, depth_eq]; omega)]
      rfl
  · rintro c ⟨hc, hfree⟩
    by_contra hlt
    obtain ⟨c, rfl⟩ := Nat.exists_eq_add_of_le' hc
    have hfirst : c < g.tracks.findIdx (Column.isFree e) := by
      rw [firstFree] at hlt
      omega
    have hblocked := List.not_of_lt_findIdx hfirst
    have hlen : c < g.tracks.length := lt_of_lt_of_le hfirst List.findIdx_le_length
    rw [Bool.eq_false_iff] at hblocked
    apply hblocked
    rw [Column.isFree_iff]
    intro row hrow
    rw [← g.cell_of_lt row c hlen]
    exact hfree row hrow

theorem firstFree_le_depth : g.firstFree e ≤ g.depth := by
  have h := @List.findIdx_le_length _ (Column.isFree e) g.tracks
  rw [firstFree, depth_eq]
  omega

/-! ## Growing -/

@[simp] theorem rows_grow : (g.grow column).rows = g.rows := by
  rw [grow]
  split_ifs <;> rfl

theorem depth_grow (h : column ≤ g.depth) : (g.grow column).depth = max g.depth (column + 1) := by
  rw [grow]
  split_ifs with hlt
  · omega
  · simp only [depth_eq, List.length_append, List.length_singleton] at *
    omega

/-- A new column is empty, as were the cells outside the grid. -/
theorem cell_grow (c : ℕ) : (g.grow column).cell row c = g.cell row c := by
  rw [grow]
  split_ifs with hlt
  · rfl
  · cases c with
    | zero => rfl
    | succ c =>
      rw [cell_succ, cell_succ, List.getD_eq_getElem?_getD, List.getD_eq_getElem?_getD]
      rcases lt_trichotomy c g.tracks.length with h | rfl | h
      · rw [List.getElem?_append_left h]
      · simp [Column.glyph_of_size_le]
      · rw [List.getElem?_eq_none (by simp; omega), List.getElem?_eq_none (by omega)]

theorem Rectangular.grow {g : Grid} (h : g.Rectangular) (column : ℕ) :
    (g.grow column).Rectangular := by
  rw [Grid.grow]
  split_ifs
  · exact h
  · refine ⟨h.markers, fun cells hmem => ?_⟩
    rcases List.mem_append.mp hmem with hold | hnew
    · exact h.tracks cells hold
    · rw [List.mem_singleton.mp hnew]
      exact Column.size_empty g.rows

/-! ## Drawing -/

theorem depth_draw : (g.draw e column).depth = g.depth := by
  simp [depth_eq, draw]

theorem Rectangular.draw {g : Grid} (h : g.Rectangular) (e : Edge) (column : ℕ) :
    (g.draw e column).Rectangular := by
  refine ⟨(Column.size_drawMarkers e _).trans h.markers, fun cells hmem => ?_⟩
  obtain ⟨i, hi, rfl⟩ := List.mem_mapIdx.mp hmem
  have hsize := h.tracks _ (List.getElem_mem hi)
  change _ = g.rows
  split_ifs <;> simpa using hsize

variable {g e} {row column}

theorem cell_draw_zero (h : g.Rectangular) (he : e.hi < g.rows) :
    (g.draw e column).cell row 0 =
      if row = e.target then .entryMarker
      else if row = e.source then Column.left (g.cell row 0)
      else g.cell row 0 :=
  Column.glyph_drawMarkers e row (h.markers ▸ he)

/-- A drawn edge leaves its corners and bar in its own column and horizontals in those before. -/
theorem cell_draw_succ (h : g.Rectangular) (he : e.hi < g.rows) (hcolumn : column < g.depth)
    (c : ℕ) :
    (g.draw e column).cell row (c + 1) =
      if c + 1 < column then
        if e.EndsAt row then Column.passed (g.cell row (c + 1)) else g.cell row (c + 1)
      else if c + 1 = column then (e.trackGlyph? row).getD (g.cell row (c + 1))
      else g.cell row (c + 1) := by
  by_cases hc : c < g.tracks.length
  · have hsize : e.hi < g.tracks[c].size := by
      rw [h.tracks _ (List.getElem_mem hc)]
      exact he
    have hc' : c < (g.draw e column).tracks.length := by simpa [draw] using hc
    rw [cell_of_lt _ _ _ hc', cell_of_lt _ _ _ hc]
    simp only [draw, List.getElem_mapIdx]
    split_ifs with hlt hends heq
    · rw [Column.glyph_drawWays e row hsize, if_pos hends]
    · rw [Column.glyph_drawWays e row hsize, if_neg hends]
    · exact Column.glyph_drawTrack e row hsize
    · rfl
  · have hdepth : g.depth ≤ c + 1 := by
      rw [depth_eq]
      omega
    rw [if_neg (by omega), if_neg (by omega), cell_of_depth_le _ _ _ (by rwa [depth_draw]),
      cell_of_depth_le _ _ _ hdepth]

/-! ## Routing -/

@[simp] theorem rows_draw (g : Grid) (e : Edge) (column : ℕ) : (g.draw e column).rows = g.rows :=
  rfl

def place (g : Grid) (e : Edge) : Grid :=
  (g.grow (g.firstFree e)).draw e (g.firstFree e)

@[simp] theorem rows_place (g : Grid) (e : Edge) : (g.place e).rows = g.rows := by
  rw [place, rows_draw, rows_grow]

theorem depth_place (g : Grid) (e : Edge) :
    (g.place e).depth = max g.depth (g.firstFree e + 1) := by
  rw [place, depth_draw, g.depth_grow _ (g.firstFree_le_depth e)]

theorem Rectangular.place (h : g.Rectangular) (e : Edge) : (g.place e).Rectangular :=
  (h.grow (g.firstFree e)).draw e (g.firstFree e)

theorem cell_place_zero (h : g.Rectangular) (he : e.hi < g.rows) :
    (g.place e).cell row 0 =
      if row = e.target then .entryMarker
      else if row = e.source then Column.left (g.cell row 0)
      else g.cell row 0 := by
  rw [place, cell_draw_zero (h.grow _) (by simpa using he), cell_grow]

theorem cell_place_succ (h : g.Rectangular) (he : e.hi < g.rows) (c : ℕ) :
    (g.place e).cell row (c + 1) =
      if c + 1 < g.firstFree e then
        if e.EndsAt row then Column.passed (g.cell row (c + 1)) else g.cell row (c + 1)
      else if c + 1 = g.firstFree e then (e.trackGlyph? row).getD (g.cell row (c + 1))
      else g.cell row (c + 1) := by
  have hdepth := g.depth_grow _ (g.firstFree_le_depth e)
  rw [place, cell_draw_succ (h.grow _) (by simpa using he) (by omega), cell_grow]

theorem route_of_fits (he : e.hi < g.rows) : g.route e = (g.place e, some (g.firstFree e)) :=
  if_pos he

theorem route_of_not_fits (he : ¬ e.hi < g.rows) : g.route e = (g, none) :=
  if_neg he

theorem routeAll_cons_of_fits (he : e.hi < g.rows) (edges : List Edge) :
    g.routeAll (e :: edges) =
      (((g.place e).routeAll edges).1,
        ⟨e, g.firstFree e⟩ :: ((g.place e).routeAll edges).2) := by
  simp [routeAll, route_of_fits he]

theorem routeAll_cons_of_not_fits (he : ¬ e.hi < g.rows) (edges : List Edge) :
    g.routeAll (e :: edges) = g.routeAll edges := by
  simp [routeAll, route_of_not_fits he]

@[simp] theorem rows_routeAll (g : Grid) (edges : List Edge) :
    (g.routeAll edges).1.rows = g.rows := by
  induction edges generalizing g with
  | nil => rfl
  | cons e edges ih =>
    by_cases he : e.hi < g.rows
    · rw [routeAll_cons_of_fits he, ih, rows_place]
    · rw [routeAll_cons_of_not_fits he, ih]

end Grid

end JumpArrows
