import JumpArrows.Proofs.DecoratedRecords
import JumpArrows.Proofs.ReadingTracks

/-! # Ways that are drawn

A cell holds a horizontal exactly if it is a gap: no track of its column covers its row, and a
deeper track ends on that row. So horizontals with a character of their own fill the gaps, which are
blank without it, and change nothing else; from every marker to its corners there is then a
character in each cell. -/

namespace JumpArrows

/-- The character that margin texts show in a cell, if they reach so far. Column 0 is the last one
of a text. -/
def shown? (picture : List String) (row column : ℕ) : Option Char :=
  picture[row]?.bind fun text => text.toList.reverse[column]?

/-- A cell behind the markers that no track covers, on a row where a deeper track ends. -/
def Track.IsGap (tracks : List Track) (row column : ℕ) : Prop :=
  1 ≤ column ∧ (∀ t ∈ tracks, t.column = column → ¬ t.edge.Covers row) ∧
    ∃ t ∈ tracks, column < t.column ∧ t.edge.EndsAt row

/-- Two jumps. The second one starts above the first one and is drawn behind it, so the way to its
corner passes the column of the first one. -/
def Edge.passing : List Edge :=
  [.between 1 3, .between 0 2]

namespace Track

variable {tracks : List Track} {row column : ℕ}

theorem marker_ne_horizontal : marker tracks row ≠ .horizontal := by
  rw [marker]
  split_ifs <;> decide

theorem glyph_eq_horizontal_iff (h : tracks.Pairwise Avoids) :
    glyph tracks row column = .horizontal ↔
      (∀ t ∈ tracks, t.column = column → ¬ t.edge.Covers row) ∧
        ∃ t ∈ tracks, column < t.column ∧ t.edge.EndsAt row := by
  by_cases hcovered : ∃ t ∈ tracks, t.column = column ∧ t.edge.Covers row
  · have htrack := (isTrack_glyph_iff h).mpr hcovered
    obtain ⟨t, ht, hc, hrow⟩ := hcovered
    refine iff_of_false (fun hway => ?_) fun hgap => hgap.1 t ht hc hrow
    rw [hway] at htrack
    cases htrack
  · push Not at hcovered
    rw [glyph_of_uncovered hcovered, and_iff_right hcovered]
    split_ifs with hway
    · exact iff_of_true rfl hway
    · exact iff_of_false (by decide) hway

theorem cell_eq_horizontal_iff (h : tracks.Pairwise Avoids) :
    cell tracks row column = .horizontal ↔ IsGap tracks row column := by
  cases column with
  | zero => exact iff_of_false marker_ne_horizontal fun hgap => Nat.not_succ_le_zero 0 hgap.1
  | succ c =>
    rw [IsGap, and_iff_right (Nat.le_add_left 1 c)]
    exact glyph_eq_horizontal_iff h

end Track

namespace Alphabet

variable (a : Alphabet) (c : Char)

theorem char_withHorizontal (glyph : Glyph) :
    (a.withHorizontal c).char glyph = if glyph = .horizontal then c else a.char glyph := by
  cases glyph <;> rfl

theorem char_horizontal_of_none (ha : a.horizontal = none) : a.char .horizontal = a.blank := by
  rw [char, ha, Option.getD_none]

end Alphabet

namespace Grid

variable {g : Grid} {tracks : List Track} {row column : ℕ} {a : Alphabet}

/-- A picture shows the characters of the cells of its grid. -/
theorem shown?_picture (g : Grid) (a : Alphabet) (row column : ℕ) :
    shown? (g.picture a) row column =
      if row < g.rows ∧ column < g.depth then some (a.char (g.cell row column)) else none := by
  by_cases hrow : row < g.rows
  · have htext : (g.picture a)[row]? = some (g.rowText a row) := by simp [picture, hrow]
    rw [shown?, htext, Option.bind_some, getElem?_rowText, if_congr (and_iff_right hrow) rfl rfl]
  · have htext : (g.picture a)[row]? = none := by simpa [picture] using hrow
    rw [shown?, htext, Option.bind_none, if_neg fun hcell => hrow hcell.1]

theorem lengths_picture (g : Grid) (a : Alphabet) :
    (g.picture a).map String.length = List.replicate g.rows g.depth := by
  rw [List.eq_replicate_iff, List.length_map, length_picture, List.forall_mem_map]
  exact ⟨rfl, fun _ => length_of_mem_picture⟩

theorem shows_of_routeAll {rows : ℕ} {edges : List Edge}
    (hdrawn : (empty rows).routeAll edges = (g, tracks)) : g.rows = rows ∧ g.Shows tracks := by
  have hshows := (shows_empty rows).routeAll edges
  have hrows := rows_routeAll (empty rows) edges
  rw [hdrawn] at hshows hrows
  exact ⟨hrows, hshows⟩

theorem Shows.cell_eq_horizontal_iff (h : g.Shows tracks) :
    g.cell row column = .horizontal ↔ Track.IsGap tracks row column := by
  rw [h.cell, Track.cell_eq_horizontal_iff h.avoids]

theorem inside_of_cell (h : g.Rectangular) (hcell : g.cell row column ≠ .empty) :
    row < g.rows ∧ column < g.depth := by
  constructor
  · by_contra hrow
    exact hcell (cell_of_rows_le h (not_lt.mp hrow) column)
  · by_contra hcolumn
    exact hcell (g.cell_of_depth_le row column (not_lt.mp hcolumn))

/-- A picture shows the character of every cell that is not empty. -/
theorem shown?_of_cell (h : g.Rectangular) {glyph : Glyph} (hcell : g.cell row column = glyph)
    (hglyph : glyph ≠ .empty) (a : Alphabet) :
    shown? (g.picture a) row column = some (a.char glyph) := by
  rw [shown?_picture, if_pos (inside_of_cell h (hcell ▸ hglyph)), hcell]

theorem isGap_passing : Track.IsGap ((empty 4).routeAll Edge.passing).2 0 1 :=
  (shows_of_routeAll rfl).2.cell_eq_horizontal_iff.mp (by decide)

/-- Between the marker and the corner of a track every cell holds a track glyph or a horizontal. -/
theorem Shows.isTrack_or_isGap (h : g.Shows tracks) {t : Track} (ht : t ∈ tracks)
    (hends : t.edge.EndsAt row) (hpos : 1 ≤ column) (hbefore : column < t.column) :
    (g.cell row column).isTrack = true ∨ Track.IsGap tracks row column := by
  by_cases hcovered : ∃ u ∈ tracks, u.column = column ∧ u.edge.Covers row
  · left
    obtain ⟨c, rfl⟩ := Nat.exists_eq_add_of_le' hpos
    rw [h.cell_succ]
    exact (Track.isTrack_glyph_iff h.avoids).mpr hcovered
  · right
    push Not at hcovered
    exact ⟨hpos, hcovered, t, ht, hbefore, hends⟩

/-- Drawing the ways with a character of their own keeps the shape of a picture. In the gaps it puts
that character for a blank, and elsewhere it changes nothing. So on the rows of its ends every track
is joined to its markers: each cell between shows the character of the ways or that of a track. -/
theorem picture_withHorizontal {rows : ℕ} {edges : List Edge} {g : Grid} {tracks : List Track}
    (hdrawn : (empty rows).routeAll edges = (g, tracks)) {a : Alphabet} (ha : a.horizontal = none)
    (c : Char) :
    (g.picture (a.withHorizontal c)).map String.length = (g.picture a).map String.length ∧
      (∀ row column, Track.IsGap tracks row column →
        shown? (g.picture a) row column = some a.blank ∧
          shown? (g.picture (a.withHorizontal c)) row column = some c) ∧
      (∀ row column, ¬ Track.IsGap tracks row column →
        shown? (g.picture (a.withHorizontal c)) row column = shown? (g.picture a) row column) ∧
      ∀ t ∈ tracks, ∀ row column, t.edge.EndsAt row → 1 ≤ column → column < t.column →
        shown? (g.picture (a.withHorizontal c)) row column = some c ∨
          (g.cell row column).isTrack = true ∧
            shown? (g.picture (a.withHorizontal c)) row column =
              some (a.char (g.cell row column)) := by
  obtain ⟨-, hshows⟩ := shows_of_routeAll hdrawn
  have hgaps : ∀ row column, Track.IsGap tracks row column →
      shown? (g.picture a) row column = some a.blank ∧
        shown? (g.picture (a.withHorizontal c)) row column = some c := by
    intro row column hgap
    have hway := shown?_of_cell hshows.rectangular (hshows.cell_eq_horizontal_iff.mpr hgap)
      (by decide)
    rw [hway, hway, a.char_horizontal_of_none ha, a.char_withHorizontal, if_pos rfl]
    exact ⟨rfl, rfl⟩
  have hsame : ∀ row column, ¬ Track.IsGap tracks row column →
      shown? (g.picture (a.withHorizontal c)) row column = shown? (g.picture a) row column := by
    intro row column hgap
    rw [← hshows.cell_eq_horizontal_iff] at hgap
    rw [shown?_picture, shown?_picture, a.char_withHorizontal, if_neg hgap]
  refine ⟨by rw [lengths_picture, lengths_picture], hgaps, hsame, ?_⟩
  intro t ht row column hends hpos hbefore
  rcases hshows.isTrack_or_isGap ht hends hpos hbefore with htrack | hgap
  · have hne : g.cell row column ≠ .empty ∧ g.cell row column ≠ .horizontal := by
      constructor <;> intro hcell <;> rw [hcell] at htrack <;> cases htrack
    refine .inr ⟨htrack, ?_⟩
    rw [shown?_of_cell hshows.rectangular rfl hne.1, a.char_withHorizontal, if_neg hne.2]
  · exact .inl (hgaps row column hgap).2

theorem picture_withHorizontal_passed :
    Alphabet.boxes.horizontal = none ∧
      Track.IsGap ((empty 4).routeAll Edge.passing).2 0 1 ∧
      shown? (((empty 4).routeAll Edge.passing).1.picture .boxes) 0 1 = some ' ' ∧
      shown? (((empty 4).routeAll Edge.passing).1.picture
        (Alphabet.boxes.withHorizontal '─')) 0 1 = some '─' :=
  have hnone : Alphabet.boxes.horizontal = none := rfl
  ⟨hnone, isGap_passing,
    (picture_withHorizontal Prod.mk.eta.symm hnone '─').2.1 0 1 isGap_passing⟩

end Grid

end JumpArrows
