import JumpArrows.Proofs.FirstFit

/-! # Reading tracks off a picture

A track runs from a corner that opens downwards over bars to the first corner that opens upwards;
a corner that opens upwards with no track coming down to it is the track of a jump to its own row.
Read like this, a column shows the spans of its tracks and nothing else, though they may touch and
horizontals may stand between them. Characters that tell the glyphs of tracks from all others are
therefore enough: margins that look the same have the same tracks. -/

namespace JumpArrows

/-! ## Oriented edges -/

namespace Edge

/-- The direction is the one that the order of the rows gives. -/
def IsOriented (e : Edge) : Prop :=
  e.direction = .between e.source e.target

theorem isOriented_between (source target : ℕ) : (between source target).IsOriented := rfl

variable {e : Edge} (h : e.IsOriented) (row : ℕ)

include h

/-- The corner on the last row opens upwards, and the one on the first row downwards. -/
theorem IsOriented.trackGlyph?_eq :
    e.trackGlyph? row =
      if row = e.hi then some .cornerUp
      else if row = e.lo then some .cornerDown
      else if e.lo < row ∧ row < e.hi then some .vertical
      else none := by
  rw [trackGlyph?, h, Direction.between]
  rcases lt_trichotomy e.source e.target with hlt | heq | hgt
  · have hlo : e.lo = e.source := min_eq_left hlt.le
    have hhi : e.hi = e.target := max_eq_right hlt.le
    rw [if_pos hlt, hlo, hhi]
    rfl
  · have hlo : e.lo = e.target := by rw [lo, heq, min_self]
    have hhi : e.hi = e.target := by rw [hi, heq, max_self]
    rw [heq, if_neg (lt_irrefl _), if_neg (lt_irrefl _), hlo, hhi]
    split_ifs <;> rfl
  · have hlo : e.lo = e.target := min_eq_right hgt.le
    have hhi : e.hi = e.source := max_eq_left hgt.le
    rw [if_neg hgt.not_gt, if_pos hgt, hlo, hhi]
    by_cases htarget : row = e.target
    · rw [if_pos htarget, if_neg (htarget ▸ hgt.ne), if_pos htarget]
      rfl
    · rw [if_neg htarget, if_neg htarget]
      rfl

theorem IsOriented.trackGlyph?_eq_cornerUp_iff :
    e.trackGlyph? row = some .cornerUp ↔ row = e.hi := by
  rw [h.trackGlyph?_eq]
  split_ifs with hhi <;> simp [hhi]

theorem IsOriented.trackGlyph?_eq_cornerDown_iff :
    e.trackGlyph? row = some .cornerDown ↔ row = e.lo ∧ e.lo < e.hi := by
  have he := e.lo_le_hi
  rw [h.trackGlyph?_eq]
  split_ifs with hhi hlo hin
  · exact iff_of_false (by simp) (by omega)
  · exact iff_of_true rfl ⟨hlo, lt_of_le_of_ne he fun heq => hhi (hlo.trans heq)⟩
  · exact iff_of_false (by simp) fun hrow => hlo hrow.1
  · exact iff_of_false (by simp) fun hrow => hlo hrow.1

theorem IsOriented.trackGlyph?_eq_vertical_iff :
    e.trackGlyph? row = some .vertical ↔ e.lo < row ∧ row < e.hi := by
  rw [h.trackGlyph?_eq]
  split_ifs with hhi hlo hin
  · exact iff_of_false (by simp) fun hrow => hrow.2.ne hhi
  · exact iff_of_false (by simp) fun hrow => hrow.1.ne' hlo
  · exact iff_of_true rfl hin
  · exact iff_of_false (by simp) hin

end Edge

/-! ## Reading a column -/

theorem Glyph.ne_marker_of_isTrack {glyph : Glyph} (h : glyph.isTrack = true) :
    glyph ≠ .entryMarker ∧ glyph ≠ .exitMarker := by
  constructor <;> rintro rfl <;> cases h

/-- From one row to a later one the column shows a track. -/
def Descends (column : ℕ → Glyph) (first last : ℕ) : Prop :=
  first < last ∧ column first = .cornerDown ∧
    (∀ row, first < row → row < last → column row = .vertical) ∧ column last = .cornerUp

/-- From the first row to the last, which may be the same, the column shows a track. -/
def Reads (column : ℕ → Glyph) (first last : ℕ) : Prop :=
  Descends column first last ∨
    (first = last ∧ column last = .cornerUp ∧ ∀ row, ¬ Descends column row last)

/-- Only the glyphs of tracks are read. -/
theorem reads_congr {column column' : ℕ → Glyph}
    (h : ∀ glyph : Glyph, glyph.isTrack = true → ∀ row, column row = glyph ↔ column' row = glyph)
    (first last : ℕ) : Reads column first last ↔ Reads column' first last := by
  simp only [Reads, Descends, h .cornerDown rfl, h .cornerUp rfl, h .vertical rfl]

namespace Track

variable {tracks : List Track} {row column : ℕ}

theorem glyph_eq_iff (h : tracks.Pairwise Avoids) {glyph : Glyph} (hglyph : glyph.isTrack = true) :
    Track.glyph tracks row column = glyph ↔
      ∃ t ∈ tracks, t.column = column ∧ t.edge.trackGlyph? row = some glyph := by
  constructor
  · rintro rfl
    obtain ⟨t, ht, rfl, hcover⟩ := (isTrack_glyph_iff h).mp hglyph
    exact ⟨t, ht, rfl, (some_glyph_eq h ht hcover).symm⟩
  · rintro ⟨t, ht, rfl, hrow⟩
    have hcover : t.edge.Covers row := by
      by_contra hnot
      rw [(t.edge.trackGlyph?_eq_none_iff row).mpr hnot] at hrow
      cases hrow
    rw [← some_glyph_eq h ht hcover, Option.some_inj] at hrow
    exact hrow

section Oriented

variable (havoids : tracks.Pairwise Avoids) (horiented : ∀ t ∈ tracks, t.edge.IsOriented)

include havoids horiented

/-- A glyph of a track stands where some track of the column puts it. -/
theorem glyph_eq_iff_of_oriented {glyph : Glyph} (hglyph : glyph.isTrack = true) {P : Edge → Prop}
    (hP : ∀ e : Edge, e.IsOriented → (e.trackGlyph? row = some glyph ↔ P e)) :
    Track.glyph tracks row column = glyph ↔ ∃ t ∈ tracks, t.column = column ∧ P t.edge := by
  rw [glyph_eq_iff havoids hglyph]
  exact exists_congr fun t => and_congr_right fun ht =>
    and_congr_right fun _ => hP t.edge (horiented t ht)

theorem glyph_eq_cornerUp_iff :
    Track.glyph tracks row column = .cornerUp ↔
      ∃ t ∈ tracks, t.column = column ∧ row = t.edge.hi :=
  glyph_eq_iff_of_oriented havoids horiented rfl fun _ h => h.trackGlyph?_eq_cornerUp_iff row

theorem glyph_eq_cornerDown_iff :
    Track.glyph tracks row column = .cornerDown ↔
      ∃ t ∈ tracks, t.column = column ∧ row = t.edge.lo ∧ t.edge.lo < t.edge.hi :=
  glyph_eq_iff_of_oriented havoids horiented rfl fun _ h => h.trackGlyph?_eq_cornerDown_iff row

theorem glyph_eq_vertical_iff :
    Track.glyph tracks row column = .vertical ↔
      ∃ t ∈ tracks, t.column = column ∧ t.edge.lo < row ∧ row < t.edge.hi :=
  glyph_eq_iff_of_oriented havoids horiented rfl fun _ h => h.trackGlyph?_eq_vertical_iff row

variable (first last : ℕ)

theorem descends_iff :
    Descends (Track.glyph tracks · column) first last ↔
      first < last ∧
        ∃ t ∈ tracks, t.column = column ∧ t.edge.lo = first ∧ t.edge.hi = last := by
  have hup (row : ℕ) := @glyph_eq_cornerUp_iff tracks row column havoids horiented
  have hdown (row : ℕ) := @glyph_eq_cornerDown_iff tracks row column havoids horiented
  have hbar (row : ℕ) := @glyph_eq_vertical_iff tracks row column havoids horiented
  constructor
  · rintro ⟨hlt, hfirst, hbars, hlast⟩
    obtain ⟨t, ht, hc, rfl, hspan⟩ := (hdown first).mp hfirst
    refine ⟨hlt, t, ht, hc, rfl, ?_⟩
    -- the track that begins here can neither end before the corner nor run past it
    rcases lt_trichotomy t.edge.hi last with hshort | heq | hlong
    · have hend := (hup t.edge.hi).mpr ⟨t, ht, hc, rfl⟩
      cases (hbars _ hspan hshort).symm.trans hend
    · exact heq
    · have hinside := (hbar last).mpr ⟨t, ht, hc, hlt, hlong⟩
      cases hinside.symm.trans hlast
  · rintro ⟨hlt, t, ht, hc, rfl, rfl⟩
    refine ⟨hlt, ?_, fun row hlo hhi => ?_, ?_⟩
    · exact (hdown _).mpr ⟨t, ht, hc, rfl, hlt⟩
    · exact (hbar row).mpr ⟨t, ht, hc, hlo, hhi⟩
    · exact (hup _).mpr ⟨t, ht, hc, rfl⟩

/-- What is read off a column are the spans of its tracks. -/
theorem reads_iff :
    Reads (Track.glyph tracks · column) first last ↔
      ∃ t ∈ tracks, t.column = column ∧ t.edge.lo = first ∧ t.edge.hi = last := by
  have hup (row : ℕ) := @glyph_eq_cornerUp_iff tracks row column havoids horiented
  have hdescends := @descends_iff tracks column havoids horiented
  constructor
  · rintro (hlong | ⟨rfl, hcorner, halone⟩)
    · exact ((hdescends first last).mp hlong).2
    · obtain ⟨t, ht, hc, rfl⟩ := (hup _).mp hcorner
      refine ⟨t, ht, hc, ?_, rfl⟩
      by_contra hne
      have hlt : t.edge.lo < t.edge.hi := lt_of_le_of_ne t.edge.lo_le_hi hne
      exact halone t.edge.lo ((hdescends _ _).mpr ⟨hlt, t, ht, hc, rfl, rfl⟩)
  · rintro ⟨t, ht, hc, rfl, rfl⟩
    rcases lt_or_eq_of_le t.edge.lo_le_hi with hlt | heq
    · exact .inl ((hdescends _ _).mpr ⟨hlt, t, ht, hc, rfl, rfl⟩)
    · refine .inr ⟨heq, (hup _).mpr ⟨t, ht, hc, rfl⟩, fun row hrow => ?_⟩
      -- a track that came down to this row would share it with the jump to itself
      obtain ⟨hlt, u, hu, huc, rfl, huhi⟩ := (hdescends _ _).mp hrow
      have hut : u = t := by
        have hucovers : u.edge.Covers t.edge.hi := ⟨hlt.le, huhi.ge⟩
        have htcovers : t.edge.Covers t.edge.hi := ⟨heq.le, le_rfl⟩
        exact eq_of_covers havoids hu ht (huc.trans hc.symm) hucovers htcovers
      rw [hut, heq] at hlt
      exact lt_irrefl _ hlt

end Oriented

/-- Behind the markers there are none. -/
theorem glyph_ne_marker :
    Track.glyph tracks row column ≠ .entryMarker ∧ Track.glyph tracks row column ≠ .exitMarker := by
  rw [Track.glyph]
  split
  next t _ => exact Glyph.ne_marker_of_isTrack t.edge.direction.isTrack_targetCorner
  next =>
    split
    next t _ => exact Glyph.ne_marker_of_isTrack t.edge.direction.isTrack_sourceCorner
    next => split_ifs <;> decide

end Track

/-! ## Characters -/

/-- The characters of tracks differ from each other and from all others behind the markers. -/
structure Alphabet.IsLegible (a : Alphabet) : Prop where
  distinct : [a.vertical, a.cornerDown, a.cornerUp, a.blank].Nodup
  horizontal : ∀ c ∈ a.horizontal, c ∉ [a.vertical, a.cornerDown, a.cornerUp]

namespace Alphabet.IsLegible

variable {a : Alphabet} (ha : a.IsLegible)

include ha

/-- A way that is drawn as a blank, if no other character is given, looks like no track. -/
theorem horizontal_not_mem :
    a.horizontal.getD a.blank ∉ [a.vertical, a.cornerDown, a.cornerUp] := by
  cases hway : a.horizontal with
  | none =>
    have hblank := (List.nodup_append.mp (show
      ([a.vertical, a.cornerDown, a.cornerUp] ++ [a.blank]).Nodup from ha.distinct)).2.2
    exact fun hmem => hblank _ hmem _ (List.mem_singleton_self _) rfl
  | some c => exact ha.horizontal c hway

/-- A character of a track stands for one glyph only. -/
theorem char_eq_iff {glyph track : Glyph} (htrack : track.isTrack = true)
    (hglyph : glyph ≠ .entryMarker ∧ glyph ≠ .exitMarker) :
    a.char glyph = a.char track ↔ glyph = track := by
  have hway := ha.horizontal_not_mem
  have hdistinct := ha.distinct
  cases track <;> cases glyph <;> grind [Alphabet.char, Glyph.isTrack]

end Alphabet.IsLegible

namespace Grid

variable {a : Alphabet} {g g' : Grid} {row : ℕ}

/-- The characters of a row stand in its margin text from the end. -/
theorem getElem?_rowText (g : Grid) (a : Alphabet) (row column : ℕ) :
    (g.rowText a row).toList.reverse[column]? =
      if column < g.depth then some (a.char (g.cell row column)) else none := by
  rw [rowText, String.toList_ofList, ← List.map_reverse, List.reverse_reverse, Grid.row,
    List.map_map, List.getElem?_map]
  split_ifs with hcolumn
  · rw [List.getElem?_eq_getElem hcolumn, cell, List.getD_eq_getElem _ _ hcolumn]
    rfl
  · rw [List.getElem?_eq_none (not_lt.mp hcolumn), Option.map_none]

theorem char_cell (g : Grid) (a : Alphabet) (row column : ℕ) :
    a.char (g.cell row column) = (g.rowText a row).toList.reverse[column]?.getD a.blank := by
  rw [getElem?_rowText]
  split_ifs with hcolumn
  · rfl
  · rw [g.cell_of_depth_le row column (not_lt.mp hcolumn)]
    rfl

theorem rowText_eq_of_picture_eq (hrows : g.rows = g'.rows) (h : g.picture a = g'.picture a)
    (hrow : row < g.rows) : g.rowText a row = g'.rowText a row := by
  rw [picture, picture, ← hrows, List.map_inj_left] at h
  exact h row (List.mem_range.mpr hrow)

variable {tracks tracks' : List Track}

theorem Shows.cell_succ (h : g.Shows tracks) (row column : ℕ) :
    g.cell row (column + 1) = Track.glyph tracks row (column + 1) :=
  h.cell row (column + 1)

/-- A picture tells where the glyphs of tracks stand. -/
theorem cell_eq_iff_of_picture_eq (hg : g.Shows tracks) (hg' : g'.Shows tracks')
    (ha : a.IsLegible) (hrows : g.rows = g'.rows) (h : g.picture a = g'.picture a) {glyph : Glyph}
    (hglyph : glyph.isTrack = true) (row column : ℕ) :
    g.cell row (column + 1) = glyph ↔ g'.cell row (column + 1) = glyph := by
  by_cases hrow : row < g.rows
  · have hchar : a.char (g.cell row (column + 1)) = a.char (g'.cell row (column + 1)) := by
      rw [char_cell, char_cell, rowText_eq_of_picture_eq hrows h hrow]
    rw [hg.cell_succ, hg'.cell_succ] at hchar ⊢
    rw [← ha.char_eq_iff hglyph Track.glyph_ne_marker,
      ← ha.char_eq_iff hglyph Track.glyph_ne_marker, hchar]
  · rw [cell_of_rows_le hg.rectangular (not_lt.mp hrow),
      cell_of_rows_le hg'.rectangular (hrows ▸ not_lt.mp hrow)]

end Grid

/-! ## Bars -/

/-- What a picture tells of a track: its first row, its last row and its column. -/
def Track.bar (t : Track) : ℕ × ℕ × ℕ :=
  (t.edge.lo, t.edge.hi, t.column)

theorem Track.nodup_bars {tracks : List Track} (h : tracks.Pairwise Avoids) :
    (tracks.map bar).Nodup := by
  rw [List.Nodup, List.pairwise_map]
  refine h.imp fun {t u} hmeet hbar => ?_
  obtain ⟨hlo, hrest⟩ := Prod.mk.inj hbar
  obtain ⟨-, hcolumn⟩ := Prod.mk.inj hrest
  refine hmeet hcolumn ⟨t.edge.lo, ⟨le_rfl, t.edge.lo_le_hi⟩, ?_⟩
  rw [hlo]
  exact ⟨le_rfl, u.edge.lo_le_hi⟩

namespace Grid

variable {a : Alphabet} {g : Grid} {tracks : List Track}

theorem Shows.mem_bars_iff (h : g.Shows tracks) (horiented : ∀ t ∈ tracks, t.edge.IsOriented)
    (first last column : ℕ) :
    (first, last, column) ∈ tracks.map Track.bar ↔
      1 ≤ column ∧ Reads (g.cell · column) first last := by
  have hmem : (first, last, column) ∈ tracks.map Track.bar ↔
      ∃ t ∈ tracks, t.column = column ∧ t.edge.lo = first ∧ t.edge.hi = last := by
    simp only [List.mem_map, Track.bar, Prod.mk.injEq]
    exact exists_congr fun t => and_congr_right fun _ => by tauto
  rw [hmem]
  cases column with
  | zero =>
    refine iff_of_false ?_ (fun hpos => absurd hpos.1 (by decide))
    rintro ⟨t, ht, hc, -⟩
    exact absurd (h.behind t ht) (by omega)
  | succ column =>
    simp only [h.cell_succ]
    rw [Track.reads_iff h.avoids horiented, and_iff_right (Nat.le_add_left 1 column)]

theorem isOriented_of_mem_routeAll (rows : ℕ) {edges : List Edge}
    (hedges : ∀ e ∈ edges, e.IsOriented) :
    ∀ t ∈ ((empty rows).routeAll edges).2, t.edge.IsOriented := by
  intro t ht
  have hmem := List.mem_map_of_mem (f := Track.edge) ht
  rw [edges_routeAll] at hmem
  exact hedges _ (List.mem_filter.mp hmem).1

/-- What is drawn tells the tracks: if the margins of two runs look the same, in an alphabet in
which tracks can be told, the two runs made the same bars in the same columns. -/
theorem bars_perm_of_picture_eq (ha : a.IsLegible) (rows : ℕ) {edges edges' : List Edge}
    (hedges : ∀ e ∈ edges, e.IsOriented) (hedges' : ∀ e ∈ edges', e.IsOriented)
    (h : ((empty rows).routeAll edges).1.picture a =
      ((empty rows).routeAll edges').1.picture a) :
    (((empty rows).routeAll edges).2.map Track.bar).Perm
      (((empty rows).routeAll edges').2.map Track.bar) := by
  have hg := (shows_empty rows).routeAll edges
  have hg' := (shows_empty rows).routeAll edges'
  rw [List.nil_append] at hg hg'
  have hrows : ((empty rows).routeAll edges).1.rows = ((empty rows).routeAll edges').1.rows := by
    rw [rows_routeAll, rows_routeAll]
  rw [List.perm_ext_iff_of_nodup (Track.nodup_bars hg.avoids) (Track.nodup_bars hg'.avoids)]
  rintro ⟨first, last, column⟩
  rw [hg.mem_bars_iff (isOriented_of_mem_routeAll rows hedges),
    hg'.mem_bars_iff (isOriented_of_mem_routeAll rows hedges')]
  refine and_congr_right fun hpos => ?_
  obtain ⟨column, rfl⟩ := Nat.exists_eq_add_of_le' hpos
  exact reads_congr
    (fun glyph hglyph row => cell_eq_iff_of_picture_eq hg hg' ha hrows h hglyph row column)
    first last

/-- The same three jumps, one of them to itself, drawn in two orders. -/
theorem bars_perm_of_picture_eq_reordered :
    (Alphabet.boxes.withHorizontal '─').IsLegible ∧
      ((empty 6).routeAll [.between 0 3, .between 5 1, .between 4 4]).1.picture
          (Alphabet.boxes.withHorizontal '─') =
        ((empty 6).routeAll [.between 4 4, .between 0 3, .between 5 1]).1.picture
          (Alphabet.boxes.withHorizontal '─') ∧
      (((empty 6).routeAll [.between 0 3, .between 5 1, .between 4 4]).2.map Track.bar).Perm
        (((empty 6).routeAll [.between 4 4, .between 0 3, .between 5 1]).2.map Track.bar) :=
  have hlegible : (Alphabet.boxes.withHorizontal '─').IsLegible :=
    { distinct := by simp [Alphabet.withHorizontal, Alphabet.boxes]
      horizontal := by simp [Alphabet.withHorizontal, Alphabet.boxes] }
  have hpicture : ((empty 6).routeAll [.between 0 3, .between 5 1, .between 4 4]).1.picture
      (Alphabet.boxes.withHorizontal '─') =
      ((empty 6).routeAll [.between 4 4, .between 0 3, .between 5 1]).1.picture
        (Alphabet.boxes.withHorizontal '─') := by
    decide +kernel
  ⟨hlegible, hpicture,
    bars_perm_of_picture_eq hlegible 6 (by simp [Edge.isOriented_between])
      (by simp [Edge.isOriented_between]) hpicture⟩

end Grid

end JumpArrows
