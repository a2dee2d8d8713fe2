import JumpArrows.Proofs.GridCells

/-! # The picture that tracks make

Which glyph a cell holds is told here by the list of tracks alone, whatever the order in which they
were drawn. A grid shows a list of tracks if all its cells are as told and no two tracks of one
column share a row. The empty grid shows no tracks, and routing one edge more keeps this. -/

namespace JumpArrows

namespace Track

variable (tracks : List Track) (row column : ℕ)

/-- The marker of a row: being jumped to counts before jumping. -/
def marker : Glyph :=
  if ∃ t ∈ tracks, t.edge.target = row then .entryMarker
  else if ∃ t ∈ tracks, t.edge.source = row then .exitMarker
  else .empty

/-- The glyph of a cell behind the markers: the column's own tracks count first, corners before
bars, and then the ways to the corners of deeper columns. -/
def glyph : Glyph :=
  match tracks.find? fun t => t.column = column ∧ t.edge.target = row with
  | some t => t.edge.direction.targetCorner
  | none =>
    match tracks.find? fun t => t.column = column ∧ t.edge.source = row with
    | some t => t.edge.direction.sourceCorner
    | none =>
      if ∃ t ∈ tracks, t.column = column ∧ t.edge.lo < row ∧ row < t.edge.hi then .vertical
      else if ∃ t ∈ tracks, column < t.column ∧ t.edge.EndsAt row then .horizontal
      else .empty

def cell : ℕ → Glyph
  | 0 => marker tracks row
  | column + 1 => glyph tracks row (column + 1)

/-- Two tracks of one column share no row. -/
def Avoids (t u : Track) : Prop :=
  t.column = u.column → ¬ t.edge.Overlaps u.edge

instance : Std.Symm Avoids where
  symm _ _ h hcolumn := fun ⟨row, hu, ht⟩ => h hcolumn.symm ⟨row, ht, hu⟩

variable {tracks} {row column}

section Ends

variable {side : Edge → ℕ} (hside : ∀ e : Edge, e.EndsAt (side e))

include hside

/-- A track that is found by one of its ends covers the row. -/
theorem covers_of_find? {t : Track}
    (h : tracks.find? (fun t => t.column = column ∧ side t.edge = row) = some t) :
    t ∈ tracks ∧ t.column = column ∧ side t.edge = row ∧ t.edge.Covers row := by
  have ht : t.column = column ∧ side t.edge = row := by simpa using List.find?_some h
  exact ⟨List.mem_of_find?_eq_some h, ht.1, ht.2, ht.2 ▸ t.edge.covers_of_endsAt _ (hside t.edge)⟩

theorem find?_of_uncovered (h : ∀ t ∈ tracks, t.column = column → ¬ t.edge.Covers row) :
    tracks.find? (fun t => t.column = column ∧ side t.edge = row) = none := by
  by_contra hfound
  obtain ⟨t, ht⟩ := Option.ne_none_iff_exists'.mp hfound
  obtain ⟨hmem, hcolumn, -, hcover⟩ := covers_of_find? hside ht
  exact h t hmem hcolumn hcover

theorem find?_of_covered {t : Track} (ht : t ∈ tracks) (hc : t.column = column)
    (honly : ∀ u ∈ tracks, u.column = column → u.edge.Covers row → u = t) :
    tracks.find? (fun t => t.column = column ∧ side t.edge = row) =
      if row = side t.edge then some t else none := by
  cases hfind : tracks.find? (fun t => t.column = column ∧ side t.edge = row) with
  | none =>
    have hrow : row ≠ side t.edge := by
      intro h
      have := List.find?_eq_none.mp hfind t ht
      simp [hc, h] at this
    rw [if_neg hrow]
  | some u =>
    obtain ⟨hmem, hcolumn, hrow, hcover⟩ := covers_of_find? hside hfind
    rw [← honly u hmem hcolumn hcover, if_pos hrow.symm]

end Ends

/-- A row that no track of the column covers shows at most a way to a deeper column. -/
theorem glyph_of_uncovered (h : ∀ t ∈ tracks, t.column = column → ¬ t.edge.Covers row) :
    glyph tracks row column =
      if ∃ t ∈ tracks, column < t.column ∧ t.edge.EndsAt row then .horizontal else .empty := by
  have htarget := find?_of_uncovered Edge.endsAt_target h
  have hsource := find?_of_uncovered Edge.endsAt_source h
  have hbar : ¬ ∃ t ∈ tracks, t.column = column ∧ t.edge.lo < row ∧ row < t.edge.hi := by
    rintro ⟨t, ht, hc, hin⟩
    exact h t ht hc ((t.edge.covers_iff row).mpr (.inr hin))
  simp only [glyph, htarget, hsource, if_neg hbar]

/-- A row that one track of the column covers shows what that track puts there. -/
theorem glyph_of_covered {t : Track} (ht : t ∈ tracks) (hc : t.column = column)
    (honly : ∀ u ∈ tracks, u.column = column → u.edge.Covers row → u = t)
    (hcover : t.edge.Covers row) : some (glyph tracks row column) = t.edge.trackGlyph? row := by
  have htarget := find?_of_covered Edge.endsAt_target ht hc honly
  have hsource := find?_of_covered Edge.endsAt_source ht hc honly
  simp only [glyph, htarget, hsource, Edge.trackGlyph?]
  by_cases hrow : row = t.edge.target
  · simp only [if_pos hrow]
  · by_cases hrow' : row = t.edge.source
    · simp only [if_neg hrow, if_pos hrow']
    · have hin : t.edge.lo < row ∧ row < t.edge.hi := by
        rcases (t.edge.covers_iff row).mp hcover with (h | h) | h
        · exact absurd h hrow'
        · exact absurd h hrow
        · exact h
      simp only [if_neg hrow, if_neg hrow', if_pos hin]
      rw [if_pos ⟨t, ht, hc, hin⟩]

theorem eq_of_covers (h : tracks.Pairwise Avoids) {t u : Track} (ht : t ∈ tracks)
    (hu : u ∈ tracks) (hcolumn : t.column = u.column) (htrow : t.edge.Covers row)
    (hurow : u.edge.Covers row) : t = u := by
  by_contra hne
  exact h.forall ht hu hne hcolumn ⟨row, htrow, hurow⟩

theorem some_glyph_eq (h : tracks.Pairwise Avoids) {t : Track} (ht : t ∈ tracks)
    (hcover : t.edge.Covers row) : some (glyph tracks row t.column) = t.edge.trackGlyph? row :=
  glyph_of_covered ht rfl (fun _ hu hc hu' => eq_of_covers h hu ht hc hu' hcover) hcover

theorem isTrack_glyph_iff (h : tracks.Pairwise Avoids) :
    (glyph tracks row column).isTrack = true ↔
      ∃ t ∈ tracks, t.column = column ∧ t.edge.Covers row := by
  constructor
  · intro htrack
    by_contra hnone
    push Not at hnone
    rw [glyph_of_uncovered hnone] at htrack
    split_ifs at htrack <;> cases htrack
  · rintro ⟨t, ht, rfl, hcover⟩
    exact Edge.isTrack_of_trackGlyph? (some_glyph_eq h ht hcover).symm

/-- One track more, put in a column in which it meets no other. -/
theorem glyph_concat {t : Track} (h : (tracks ++ [t]).Pairwise Avoids) :
    glyph (tracks ++ [t]) row column =
      if column < t.column then
        if t.edge.EndsAt row then Column.passed (glyph tracks row column)
        else glyph tracks row column
      else if column = t.column then (t.edge.trackGlyph? row).getD (glyph tracks row column)
      else glyph tracks row column := by
  have hold : tracks.Pairwise Avoids := (List.pairwise_append.mp h).1
  by_cases hcovered : ∃ u ∈ tracks, u.column = column ∧ u.edge.Covers row
  · -- an older track keeps its row, and the new one does not cover it
    obtain ⟨u, hu, rfl, hrow⟩ := hcovered
    have hnew := some_glyph_eq h (List.mem_append_left [t] hu) hrow
    rw [← some_glyph_eq hold hu hrow, Option.some_inj] at hnew
    have htrack := (isTrack_glyph_iff hold).mpr ⟨u, hu, rfl, hrow⟩
    rw [hnew, Column.passed_of_isTrack htrack]
    split_ifs with hlt hends heq
    · rfl
    · rfl
    · have hnone : t.edge.trackGlyph? row = none := by
        rw [Edge.trackGlyph?_eq_none_iff]
        intro ht
        exact (List.pairwise_append.mp h).2.2 u hu t (List.mem_singleton_self t) heq ⟨row, hrow, ht⟩
      rw [hnone, Option.getD_none]
    · rfl
  · push Not at hcovered
    rw [glyph_of_uncovered hcovered]
    by_cases ht : t.column = column ∧ t.edge.Covers row
    · obtain ⟨rfl, hrow⟩ := ht
      rw [if_neg (lt_irrefl _), if_pos rfl, ← some_glyph_eq h (by simp) hrow, Option.getD_some]
    · have hnew : ∀ u ∈ tracks ++ [t], u.column = column → ¬ u.edge.Covers row := by
        intro u hu hc
        rcases List.mem_append.mp hu with hu | hu
        · exact hcovered u hu hc
        · rw [List.mem_singleton.mp hu] at hc ⊢
          exact fun hrow => ht ⟨hc, hrow⟩
      have hways : (∃ u ∈ tracks ++ [t], column < u.column ∧ u.edge.EndsAt row) ↔
          (∃ u ∈ tracks, column < u.column ∧ u.edge.EndsAt row) ∨
            column < t.column ∧ t.edge.EndsAt row := by
        simp [or_and_right, exists_or]
      rw [glyph_of_uncovered hnew, if_congr hways rfl rfl]
      by_cases hlt : column < t.column
      · by_cases hends : t.edge.EndsAt row
        · simp only [hlt, hends, and_true, or_true, if_true]
          split_ifs <;> rfl
        · simp only [hlt, hends, and_false, or_false, if_true, if_false]
      · rw [if_neg hlt]
        simp only [hlt, false_and, or_false]
        by_cases heq : column = t.column
        · have hnone : t.edge.trackGlyph? row = none := by
            rw [Edge.trackGlyph?_eq_none_iff]
            exact fun hrow => ht ⟨heq.symm, hrow⟩
          rw [if_pos heq, hnone, Option.getD_none]
        · rw [if_neg heq]

theorem marker_concat (t : Track) :
    marker (tracks ++ [t]) row =
      if row = t.edge.target then .entryMarker
      else if row = t.edge.source then Column.left (marker tracks row)
      else marker tracks row := by
  have htarget : (∃ u ∈ tracks ++ [t], u.edge.target = row) ↔
      (∃ u ∈ tracks, u.edge.target = row) ∨ row = t.edge.target := by
    simp [or_and_right, exists_or, eq_comm]
  have hsource : (∃ u ∈ tracks ++ [t], u.edge.source = row) ↔
      (∃ u ∈ tracks, u.edge.source = row) ∨ row = t.edge.source := by
    simp [or_and_right, exists_or, eq_comm]
  rw [marker, marker, if_congr htarget rfl rfl, if_congr hsource rfl rfl]
  by_cases ht : row = t.edge.target
  · simp [ht]
  · simp only [or_iff_left ht, if_neg ht]
    by_cases hs : row = t.edge.source
    · simp only [eq_true hs, or_true, if_true]
      split_ifs <;> rfl
    · simp only [or_iff_left hs, if_neg hs]

end Track

namespace Grid

/-- The grid is what its tracks tell. -/
structure Shows (g : Grid) (tracks : List Track) : Prop where
  rectangular : g.Rectangular
  behind : ∀ t ∈ tracks, 1 ≤ t.column
  avoids : tracks.Pairwise Track.Avoids
  cell : ∀ row column, g.cell row column = Track.cell tracks row column
  depth : g.depth = (tracks.map Track.column).foldr max 0 + 1

theorem shows_empty (rows : ℕ) : (empty rows).Shows [] where
  rectangular := rectangular_empty rows
  behind := by simp
  avoids := List.Pairwise.nil
  cell row column := by
    rw [cell_empty]
    cases column <;> simp [Track.cell, Track.marker, Track.glyph]
  depth := rfl

variable {g : Grid} {tracks : List Track}

/-- First fit on spans: the chosen column is the first one in which no track meets the edge. -/
theorem Shows.isLeast_firstFree (h : g.Shows tracks) (e : Edge) :
    IsLeast {c | 1 ≤ c ∧ ∀ t ∈ tracks, t.column = c → ¬ t.edge.Overlaps e} (g.firstFree e) := by
  convert g.isLeast_firstFree e using 1
  ext c
  refine and_congr_right fun hc => ?_
  obtain ⟨c, rfl⟩ := Nat.exists_eq_add_of_le' hc
  have hcell (row : ℕ) : (g.cell row (c + 1)).isTrack = true ↔
      ∃ t ∈ tracks, t.column = c + 1 ∧ t.edge.Covers row := by
    rw [h.cell]
    exact Track.isTrack_glyph_iff h.avoids
  simp only [← Bool.not_eq_true, hcell, Edge.Overlaps]
  constructor
  · rintro hfree row he ⟨t, ht, hcol, hrow⟩
    exact hfree t ht hcol ⟨row, hrow, he⟩
  · rintro hfree t ht hcol ⟨row, hrow, he⟩
    exact hfree row he ⟨t, ht, hcol, hrow⟩

theorem foldr_max_concat (l : List ℕ) (c : ℕ) :
    (l ++ [c]).foldr max 0 = max (l.foldr max 0) c := by
  induction l with
  | nil => simp
  | cons b l ih => simp [ih, max_assoc]

/-- Placing one edge more shows one track more. -/
theorem Shows.place (h : g.Shows tracks) {e : Edge} (he : e.hi < g.rows) :
    (g.place e).Shows (tracks ++ [⟨e, g.firstFree e⟩]) := by
  have hleast := h.isLeast_firstFree e
  have havoids : (tracks ++ [Track.mk e (g.firstFree e)]).Pairwise Track.Avoids := by
    rw [List.pairwise_append]
    refine ⟨h.avoids, List.pairwise_singleton _ _, fun t ht u hu => ?_⟩
    rw [List.mem_singleton.mp hu]
    exact hleast.1.2 t ht
  refine ⟨h.rectangular.place e, ?_, havoids, fun row column => ?_, ?_⟩
  · intro t ht
    rcases List.mem_append.mp ht with ht | ht
    · exact h.behind t ht
    · rw [List.mem_singleton.mp ht]
      exact hleast.1.1
  · cases column with
    | zero =>
      rw [cell_place_zero h.rectangular he, h.cell]
      exact (Track.marker_concat ⟨e, g.firstFree e⟩).symm
    | succ column =>
      rw [cell_place_succ h.rectangular he, h.cell]
      exact (Track.glyph_concat havoids).symm
  · rw [depth_place, h.depth, List.map_append, List.map_singleton, foldr_max_concat]
    dsimp only
    omega

/-- Every run from a grid that shows tracks ends in one that shows them and those of the run. -/
theorem Shows.routeAll (h : g.Shows tracks) (edges : List Edge) :
    (g.routeAll edges).1.Shows (tracks ++ (g.routeAll edges).2) := by
  induction edges generalizing g tracks with
  | nil => simpa [Grid.routeAll] using h
  | cons e edges ih =>
    by_cases he : e.hi < g.rows
    · rw [routeAll_cons_of_fits he]
      simpa using ih (h.place he)
    · rw [routeAll_cons_of_not_fits he]
      exact ih h

/-- Whatever edges are routed, in whatever order: tracks of one column share no row, and every cell
is as the tracks tell. -/
theorem routeAll_cells (rows : ℕ) (edges : List Edge) :
    ((empty rows).routeAll edges).2.Pairwise Track.Avoids ∧
      ∀ row column, ((empty rows).routeAll edges).1.cell row column =
        Track.cell ((empty rows).routeAll edges).2 row column := by
  have h := (shows_empty rows).routeAll edges
  rw [List.nil_append] at h
  exact ⟨h.avoids, h.cell⟩

end Grid

end JumpArrows
