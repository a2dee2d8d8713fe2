import JumpArrows.Proofs.GridCells

/-! # Every cell that is touched exists

Reading outside a column gives the empty glyph, and writing there changes nothing, so a grid would
hide an access to a cell that it does not have. Here routing is told once more, cell by cell and in
order, by accesses that fail where there is no cell. On a rectangular grid none of them fails, and
what they make together is the grid that routing makes. -/

namespace JumpArrows

theorem Column.ext_glyph {cells cells' : Column} (hsize : cells.size = cells'.size)
    (h : ∀ row, cells.glyph row = cells'.glyph row) : cells = cells' := by
  apply Array.ext hsize
  intro row hrow hrow'
  simpa [glyph, hrow, hrow'] using h row

namespace Grid

/-- A cell and what becomes of its glyph. -/
structure Write where
  row : ℕ
  column : ℕ
  change : Glyph → Glyph

/-- The glyph of a cell, if the grid has it. -/
def read? (g : Grid) (row column : ℕ) : Option Glyph :=
  g.columns[column]?.bind (·[row]?)

def write (g : Grid) (w : Write) : Grid :=
  match w.column with
  | 0 => { g with markers := g.markers.modify w.row w.change }
  | column + 1 => { g with tracks := g.tracks.modify column (·.modify w.row w.change) }

def write? (g : Grid) (w : Write) : Option Grid :=
  (g.read? w.row w.column).map fun _ => g.write w

/-- Whether a column is free for an edge, if it has all cells of the span. -/
def isFree? (g : Grid) (e : Edge) (column : ℕ) : Option Bool :=
  ((List.range' e.lo (e.hi + 1 - e.lo)).mapM (g.read? · column)).map (·.all (!·.isTrack))

def barWrites (e : Edge) (column : ℕ) : List Write :=
  (List.range' (e.lo + 1) (e.hi - (e.lo + 1))).map (⟨·, column, fun _ => .vertical⟩)

def wayWrites (e : Edge) (column : ℕ) : List Write :=
  (List.range' 1 (column - 1)).flatMap fun c =>
    [⟨e.source, c, Column.passed⟩, ⟨e.target, c, Column.passed⟩]

/-- What drawing an edge writes, in order: the bar, the two corners, the ways, the markers. -/
def writes (e : Edge) (column : ℕ) : List Write :=
  barWrites e column ++
    [⟨e.source, column, fun _ => e.direction.sourceCorner⟩,
      ⟨e.target, column, fun _ => e.direction.targetCorner⟩] ++
    wayWrites e column ++
    [⟨e.source, 0, Column.left⟩, ⟨e.target, 0, fun _ => .entryMarker⟩]

/-- Routes an edge by accesses to single cells, if the grid has all cells that it takes. The columns
are searched from the first one, and the search ends with the first that is free. -/
def route? (g : Grid) (e : Edge) : Option (Grid × Option ℕ) :=
  if e.hi < g.rows then do
    let found ← (List.range' 1 (g.depth - 1)).findM? (g.isFree? e)
    let column := found.getD g.depth
    let drawn ← (writes e column).foldlM write? (g.grow column)
    some (drawn, some column)
  else some (g, none)

variable {g : Grid} {e : Edge} {row column : ℕ} {w : Write}

theorem rectangular_iff : g.Rectangular ↔ ∀ cells ∈ g.columns, cells.size = g.rows := by
  rw [columns, List.forall_mem_cons]
  exact ⟨fun h => ⟨h.markers, h.tracks⟩, fun h => ⟨h.1, h.2⟩⟩

theorem Rectangular.size (h : g.Rectangular) (hcolumn : column < g.columns.length) :
    g.columns[column].size = g.rows :=
  rectangular_iff.mp h _ (List.getElem_mem hcolumn)

theorem Rectangular.ext {g' : Grid} (h : g.Rectangular) (h' : g'.Rectangular)
    (hrows : g.rows = g'.rows) (hdepth : g.depth = g'.depth)
    (hcell : ∀ row column, g.cell row column = g'.cell row column) : g = g' := by
  have hmarkers : g.markers = g'.markers := by
    apply Column.ext_glyph
    · rw [h.markers, h'.markers, hrows]
    · exact fun row => hcell row 0
  have htracks : g.tracks = g'.tracks := by
    apply List.ext_getElem
    · rw [depth_eq, depth_eq] at hdepth
      omega
    · intro c hc hc'
      apply Column.ext_glyph
      · rw [h.tracks _ (List.getElem_mem hc), h'.tracks _ (List.getElem_mem hc'), hrows]
      · intro row
        rw [← g.cell_of_lt row c hc, ← g'.cell_of_lt row c hc']
        exact hcell row (c + 1)
  cases g
  cases g'
  simp_all

/-! ## Reading -/

theorem read?_of_inside (h : g.Rectangular) (hrow : row < g.rows) (hcolumn : column < g.depth) :
    g.read? row column = some (g.cell row column) := by
  have hlength : column < g.columns.length := hcolumn
  have hrow' : row < g.columns[column].size := (h.size hlength).symm ▸ hrow
  rw [read?, cell, List.getD_eq_getElem _ _ hlength, List.getElem?_eq_getElem hlength]
  simp [Column.glyph, hrow']

theorem mapM_read? (h : g.Rectangular) (hcolumn : column < g.depth) {rows : List ℕ}
    (hrows : ∀ row ∈ rows, row < g.rows) :
    rows.mapM (g.read? · column) = some (rows.map (g.cell · column)) := by
  induction rows with
  | nil => rfl
  | cons row rows ih =>
    rw [List.forall_mem_cons] at hrows
    rw [List.mapM_cons, read?_of_inside h hrows.1 hcolumn, ih hrows.2]
    rfl

theorem isFree?_eq (h : g.Rectangular) (he : e.hi < g.rows) (hcolumn : column < g.depth) :
    g.isFree? e column = some ((g.columns.getD column #[]).isFree e) := by
  have hrows : ∀ row ∈ List.range' e.lo (e.hi + 1 - e.lo), row < g.rows := by
    intro row hrow
    rw [List.mem_range'_1] at hrow
    omega
  rw [isFree?, mapM_read? h hcolumn hrows, Option.map_some, List.all_map]
  rfl

/-- A search whose questions all have an answer is a search among the answers. -/
theorem findM?_of_answers {ask : ℕ → Option Bool} {answer : ℕ → Bool} {l : List ℕ}
    (h : ∀ c ∈ l, ask c = some (answer c)) : l.findM? ask = some (l.find? answer) := by
  induction l with
  | nil => rfl
  | cons c l ih =>
    rw [List.forall_mem_cons] at h
    rw [List.findM?, h.1, List.find?_cons]
    cases answer c
    · exact ih h.2
    · rfl

/-- The column that the search ends with, or else the one behind the last, is the first free one. -/
theorem getD_find?_isFree (g : Grid) (e : Edge) :
    ((List.range' 1 (g.depth - 1)).find? fun c => (g.columns.getD c #[]).isFree e).getD g.depth =
      g.firstFree e := by
  obtain ⟨⟨hpos, hspan⟩, hleast⟩ := g.isLeast_firstFree e
  have hfree : (g.columns.getD (g.firstFree e) #[]).isFree e = true :=
    (Column.isFree_iff e _).mpr hspan
  have hle := g.firstFree_le_depth e
  cases hfind : (List.range' 1 (g.depth - 1)).find? fun c => (g.columns.getD c #[]).isFree e with
  | none =>
    rw [List.find?_range'_eq_none] at hfind
    by_contra hne
    have htaken := hfind (g.firstFree e) hpos (by rw [Option.getD_none] at hne; omega)
    rw [hfree] at htaken
    cases htaken
  | some c =>
    rw [List.find?_range'_eq_some] at hfind
    obtain ⟨hc, hmem, hbefore⟩ := hfind
    rw [List.mem_range'_1] at hmem
    refine le_antisymm ?_ (hleast ⟨hmem.1, (Column.isFree_iff e _).mp hc⟩)
    by_contra hlt
    have htaken := hbefore (g.firstFree e) hpos (not_le.mp hlt)
    rw [hfree] at htaken
    cases htaken

theorem findM?_isFree? (h : g.Rectangular) (he : e.hi < g.rows) :
    ((List.range' 1 (g.depth - 1)).findM? (g.isFree? e)).map (·.getD g.depth) =
      some (g.firstFree e) := by
  have hanswers : ∀ c ∈ List.range' 1 (g.depth - 1),
      g.isFree? e c = some ((g.columns.getD c #[]).isFree e) := by
    intro c hc
    rw [List.mem_range'_1] at hc
    exact isFree?_eq h he (by omega)
  rw [findM?_of_answers hanswers, Option.map_some, getD_find?_isFree]

/-! ## Writing -/

@[simp] theorem rows_write (g : Grid) (w : Write) : (g.write w).rows = g.rows := by
  rw [write]
  split <;> rfl

theorem columns_write (g : Grid) (w : Write) :
    (g.write w).columns = g.columns.modify w.column (·.modify w.row w.change) := by
  obtain ⟨row, column, change⟩ := w
  cases column <;> rfl

@[simp] theorem depth_write (g : Grid) (w : Write) : (g.write w).depth = g.depth := by
  rw [depth, columns_write, List.length_modify, depth]

theorem Rectangular.write (h : g.Rectangular) (w : Write) : (g.write w).Rectangular := by
  rw [rectangular_iff, columns_write]
  intro cells hcells
  obtain ⟨c, hc, rfl⟩ := List.mem_iff_getElem.mp hcells
  have hc' : c < g.columns.length := by simpa using hc
  have hsize := h.size hc'
  rw [List.getElem_modify]
  split_ifs <;> simpa using hsize

theorem cell_write (h : g.Rectangular) (hrow : w.row < g.rows) (hcolumn : w.column < g.depth)
    (row column : ℕ) :
    (g.write w).cell row column =
      if row = w.row ∧ column = w.column then w.change (g.cell row column)
      else g.cell row column := by
  rw [cell, cell, columns_write, List.getD_eq_getElem?_getD, List.getD_eq_getElem?_getD,
    List.getElem?_modify]
  by_cases heq : column = w.column
  · subst heq
    have hlength : w.column < g.columns.length := hcolumn
    have hrow' : w.row < g.columns[w.column].size := (h.size hlength).symm ▸ hrow
    rw [if_congr (and_iff_left rfl) rfl rfl, List.getElem?_eq_getElem hlength]
    simpa using Column.glyph_modify row hrow' w.change
  · rw [if_neg fun hcell => heq hcell.2]
    cases g.columns[column]? <;> simp [Ne.symm heq]

theorem write?_of_inside (h : g.Rectangular) (hrow : w.row < g.rows)
    (hcolumn : w.column < g.depth) : g.write? w = some (g.write w) := by
  rw [write?, read?_of_inside h hrow hcolumn, Option.map_some]

/-- What becomes of the glyph of a cell when cells are written in order. -/
def written (ws : List Write) (row column : ℕ) (glyph : Glyph) : Glyph :=
  ws.foldl (fun glyph w => if row = w.row ∧ column = w.column then w.change glyph else glyph) glyph

theorem written_append (ws ws' : List Write) (row column : ℕ) (glyph : Glyph) :
    written (ws ++ ws') row column glyph = written ws' row column (written ws row column glyph) :=
  List.foldl_append

/-- Writes of one kind, which changes a glyph once for all, change the cells that they name. -/
theorem written_of_change {f : Glyph → Glyph} (hf : ∀ glyph, f (f glyph) = f glyph)
    {ws : List Write} (hws : ∀ w ∈ ws, w.change = f) (row column : ℕ) (glyph : Glyph) :
    written ws row column glyph =
      if ∃ w ∈ ws, row = w.row ∧ column = w.column then f glyph else glyph := by
  induction ws generalizing glyph with
  | nil => simp [written]
  | cons w ws ih =>
    rw [List.forall_mem_cons] at hws
    rw [written, List.foldl_cons, ← written, ih hws.2, hws.1]
    by_cases hcell : row = w.row ∧ column = w.column
    · have hsome : ∃ v ∈ w :: ws, row = v.row ∧ column = v.column :=
        ⟨w, List.mem_cons_self, hcell⟩
      rw [if_pos hcell, if_pos hsome]
      split_ifs
      · exact hf glyph
      · rfl
    · have hsame : (∃ v ∈ w :: ws, row = v.row ∧ column = v.column) ↔
          ∃ v ∈ ws, row = v.row ∧ column = v.column := by
        rw [List.exists_mem_cons_iff, or_iff_right hcell]
      rw [if_neg hcell, if_congr hsame rfl rfl]

/-- Writes inside a grid all succeed. They leave its size, and change each cell as told. -/
theorem foldlM_write? (h : g.Rectangular) {ws : List Write}
    (hws : ∀ w ∈ ws, w.row < g.rows ∧ w.column < g.depth) :
    ∃ g' : Grid, ws.foldlM write? g = some g' ∧ g'.Rectangular ∧ g'.rows = g.rows ∧
      g'.depth = g.depth ∧
      ∀ row column, g'.cell row column = written ws row column (g.cell row column) := by
  induction ws generalizing g with
  | nil => exact ⟨g, rfl, h, rfl, rfl, fun _ _ => rfl⟩
  | cons w ws ih =>
    rw [List.forall_mem_cons] at hws
    obtain ⟨⟨hrow, hcolumn⟩, hws⟩ := hws
    obtain ⟨g', hfold, hrect, hrows, hdepth, hcell⟩ := ih (h.write w) (by simpa using hws)
    refine ⟨g', ?_, hrect, by simpa using hrows, by simpa using hdepth, fun row column => ?_⟩
    · rw [List.foldlM_cons, write?_of_inside h hrow hcolumn]
      exact hfold
    · rw [hcell, cell_write h hrow hcolumn]
      rfl

/-! ## Drawing -/

theorem mem_barWrites {w : Write} (hw : w ∈ barWrites e column) :
    w.column = column ∧ e.lo < w.row ∧ w.row < e.hi := by
  obtain ⟨row, hrow, rfl⟩ := List.mem_map.mp hw
  rw [List.mem_range'_1] at hrow
  have hlo : e.lo < row := by omega
  have hhi : row < e.hi := by omega
  exact ⟨rfl, hlo, hhi⟩

theorem mem_wayWrites {w : Write} (hw : w ∈ wayWrites e column) :
    1 ≤ w.column ∧ w.column < column ∧ e.EndsAt w.row := by
  obtain ⟨c, hc, hw⟩ := List.mem_flatMap.mp hw
  rw [List.mem_range'_1] at hc
  have hbefore : c < column := by omega
  rcases List.mem_pair.mp hw with rfl | rfl
  · exact ⟨hc.1, hbefore, e.endsAt_source⟩
  · exact ⟨hc.1, hbefore, e.endsAt_target⟩

theorem inside_writes (he : e.hi < g.rows) (hcolumn : column < g.depth) :
    ∀ w ∈ writes e column, w.row < g.rows ∧ w.column < g.depth := by
  have hsource : e.source < g.rows := (le_max_left _ _).trans_lt he
  have htarget : e.target < g.rows := (le_max_right _ _).trans_lt he
  have hpos : 0 < g.depth := Nat.zero_lt_of_lt hcolumn
  have hbar : ∀ w ∈ barWrites e column, w.row < g.rows ∧ w.column < g.depth := by
    intro w hw
    obtain ⟨rfl, -, hrow⟩ := mem_barWrites hw
    exact ⟨hrow.trans he, hcolumn⟩
  have hways : ∀ w ∈ wayWrites e column, w.row < g.rows ∧ w.column < g.depth := by
    intro w hw
    obtain ⟨-, hbefore, hrow⟩ := mem_wayWrites hw
    exact ⟨(e.covers_of_endsAt _ hrow).2.trans_lt he, hbefore.trans hcolumn⟩
  simp only [writes, List.forall_mem_append, List.forall_mem_cons]
  exact ⟨⟨⟨hbar, ⟨hsource, hcolumn⟩, ⟨htarget, hcolumn⟩, by simp⟩, hways⟩,
    ⟨hsource, hpos⟩, ⟨htarget, hpos⟩, by simp⟩

theorem written_barWrites (row c : ℕ) (glyph : Glyph) :
    written (barWrites e column) row c glyph =
      if c = column ∧ e.lo < row ∧ row < e.hi then .vertical else glyph := by
  have hcell : (∃ w ∈ barWrites e column, row = w.row ∧ c = w.column) ↔
      c = column ∧ e.lo < row ∧ row < e.hi := by
    constructor
    · rintro ⟨w, hw, rfl, rfl⟩
      exact mem_barWrites hw
    · rintro ⟨rfl, hlo, hhi⟩
      exact ⟨_, List.mem_map_of_mem (List.mem_range'_1.mpr ⟨hlo, by omega⟩), rfl, rfl⟩
  have hchange : ∀ w ∈ barWrites e column, w.change = fun _ => .vertical := by
    intro w hw
    obtain ⟨row, -, rfl⟩ := List.mem_map.mp hw
    rfl
  have honce (g : Glyph) : (fun _ : Glyph => Glyph.vertical) ((fun _ => .vertical) g) = .vertical :=
    rfl
  rw [written_of_change honce hchange, if_congr hcell rfl rfl]

theorem written_wayWrites (row c : ℕ) (glyph : Glyph) :
    written (wayWrites e column) row c glyph =
      if 1 ≤ c ∧ c < column ∧ e.EndsAt row then Column.passed glyph else glyph := by
  have hcell : (∃ w ∈ wayWrites e column, row = w.row ∧ c = w.column) ↔
      1 ≤ c ∧ c < column ∧ e.EndsAt row := by
    constructor
    · rintro ⟨w, hw, rfl, rfl⟩
      exact mem_wayWrites hw
    · rintro ⟨hpos, hbefore, hrow⟩
      have hc : c ∈ List.range' 1 (column - 1) := List.mem_range'_1.mpr ⟨hpos, by omega⟩
      rcases hrow with rfl | rfl
      · exact ⟨_, List.mem_flatMap.mpr ⟨c, hc, List.mem_cons_self⟩, rfl, rfl⟩
      · exact ⟨_, List.mem_flatMap.mpr ⟨c, hc, List.mem_cons_of_mem _ List.mem_cons_self⟩, rfl, rfl⟩
  have hchange : ∀ w ∈ wayWrites e column, w.change = Column.passed := by
    intro w hw
    obtain ⟨c, -, hw⟩ := List.mem_flatMap.mp hw
    rcases List.mem_pair.mp hw with rfl | rfl <;> rfl
  rw [written_of_change Column.passed_passed hchange, if_congr hcell rfl rfl]

/-- Written in order, the cells of an edge become what drawing makes of them. -/
theorem written_writes (h : g.Rectangular) (he : e.hi < g.rows) (hpos : 1 ≤ column)
    (hcolumn : column < g.depth) (row c : ℕ) :
    written (writes e column) row c (g.cell row c) = (g.draw e column).cell row c := by
  simp only [writes, written_append, written_barWrites, written_wayWrites]
  cases c with
  | zero =>
    have hne : 0 ≠ column := Nat.ne_of_lt hpos
    rw [cell_draw_zero h he]
    simp [written, hne]
  | succ c =>
    rw [cell_draw_succ h he hcolumn, Edge.trackGlyph?]
    rcases lt_trichotomy (c + 1) column with hlt | rfl | hgt
    · simp [written, hlt, hlt.ne]
    · simp only [written, List.foldl_cons, List.foldl_nil, lt_irrefl, false_and, and_false,
        and_true, true_and, if_false, Nat.succ_ne_zero]
      split_ifs <;> rfl
    · simp [written, hgt.not_gt, hgt.ne']

/-- Routing touches no cell that the grid does not have, and single accesses make the same grid. -/
theorem route?_eq (h : g.Rectangular) (e : Edge) : g.route? e = some (g.route e) := by
  by_cases he : e.hi < g.rows
  · obtain ⟨found, hfind, hcolumn⟩ := Option.map_eq_some_iff.mp (findM?_isFree? h he)
    have hgrown := h.grow (g.firstFree e)
    have he' : e.hi < (g.grow (g.firstFree e)).rows := by rwa [rows_grow]
    have hpos : 1 ≤ g.firstFree e := (g.isLeast_firstFree e).1.1
    have hinside : g.firstFree e < (g.grow (g.firstFree e)).depth := by
      rw [g.depth_grow _ (g.firstFree_le_depth e)]
      omega
    obtain ⟨drawn, hfold, hrect, hrows, hdepth, hcell⟩ :=
      foldlM_write? hgrown (inside_writes he' hinside)
    have hdrawn : drawn = g.place e := by
      apply hrect.ext (h.place e)
      · rw [hrows, rows_grow, rows_place]
      · rw [hdepth, place, depth_draw]
      · intro row c
        rw [hcell, written_writes hgrown he' hpos hinside, place]
    rw [route?, if_pos he, hfind, route_of_fits he, ← hdrawn]
    simp [hcolumn, hfold]
  · rw [route?, if_neg he, route_of_not_fits he]

end Grid

end JumpArrows
