import JumpArrows.Proofs.DrawnWays

/-! # Where tracks can be seen to run

A sound configuration keeps the blank apart from the characters of tracks, but says nothing of the
character that ways are drawn with. So the characters of tracks stand where tracks run, and besides
in the gaps if ways are drawn with one of them. Exactly the sound configurations that do not do so
show where tracks run and where they do not. -/

namespace JumpArrows

def Alphabet.trackChars (a : Alphabet) : List Char :=
  [a.vertical, a.cornerDown, a.cornerUp]

/-- Ways are drawn with a character of tracks. -/
def Alphabet.DisguisesWays (a : Alphabet) : Prop :=
  ∃ c ∈ a.horizontal, c ∈ a.trackChars

theorem Config.blank_not_mem {config : Config} (h : config.fault? = none) :
    config.alphabet.blank ∉ config.alphabet.trackChars := by
  rw [fault?] at h
  split_ifs at h with hprefix hblank
  simpa [Alphabet.trackChars] using hblank

namespace Alphabet

variable {a : Alphabet}

theorem char_mem_trackChars {glyph : Glyph} (h : glyph.isTrack = true) :
    a.char glyph ∈ a.trackChars := by
  cases glyph with
  | vertical | cornerUp | cornerDown => simp [char, trackChars]
  | _ => cases h

theorem DisguisesWays.char_horizontal_mem (h : a.DisguisesWays) :
    a.char .horizontal ∈ a.trackChars := by
  obtain ⟨c, hc, hmem⟩ := h
  rwa [char, hc, Option.getD_some]

/-- Unless the blank is a character of tracks, ways look like tracks by their own character only. -/
theorem char_horizontal_mem_iff (hblank : a.blank ∉ a.trackChars) :
    a.char .horizontal ∈ a.trackChars ↔ a.DisguisesWays := by
  refine ⟨fun hmem => ?_, DisguisesWays.char_horizontal_mem⟩
  cases hway : a.horizontal with
  | none => exact absurd (a.char_horizontal_of_none hway ▸ hmem) hblank
  | some c => exact ⟨c, hway, by rwa [char, hway, Option.getD_some] at hmem⟩

end Alphabet

namespace Grid

/-- Behind the markers the characters of tracks stand where tracks run and nowhere else. -/
def Reveals (a : Alphabet) (drawn : Grid × List Track) : Prop :=
  ∀ row column, row < drawn.1.rows → 1 ≤ column → column < drawn.1.depth →
    ((∃ c ∈ a.trackChars, shown? (drawn.1.picture a) row column = some c) ↔
      ∃ t ∈ drawn.2, t.column = column ∧ t.edge.Covers row)

variable {g : Grid} {tracks : List Track} {row column : ℕ} {a : Alphabet}

theorem Shows.cases_cell (h : g.Shows tracks) (row column : ℕ) :
    (g.cell row (column + 1)).isTrack = true ∨ g.cell row (column + 1) = .horizontal ∨
      g.cell row (column + 1) = .empty := by
  have hmarker := @Track.glyph_ne_marker tracks row (column + 1)
  rw [h.cell_succ]
  cases hglyph : Track.glyph tracks row (column + 1) <;> simp_all [Glyph.isTrack]

/-- A character of tracks is shown where a track runs, and in a gap if ways are drawn like that. -/
theorem Shows.track_shown_iff (h : g.Shows tracks) (hblank : a.blank ∉ a.trackChars)
    (hrow : row < g.rows) (hpos : 1 ≤ column) (hcolumn : column < g.depth) :
    (∃ c ∈ a.trackChars, shown? (g.picture a) row column = some c) ↔
      (∃ t ∈ tracks, t.column = column ∧ t.edge.Covers row) ∨
        (Track.IsGap tracks row column ∧ a.DisguisesWays) := by
  have hshown : (∃ c ∈ a.trackChars, shown? (g.picture a) row column = some c) ↔
      a.char (g.cell row column) ∈ a.trackChars := by
    rw [shown?_picture, if_pos ⟨hrow, hcolumn⟩]
    simp
  obtain ⟨c, rfl⟩ := Nat.exists_eq_add_of_le' hpos
  rw [hshown, ← Track.isTrack_glyph_iff h.avoids, ← h.cell_eq_horizontal_iff, ← h.cell_succ]
  rcases h.cases_cell row c with htrack | hway | hempty
  · exact iff_of_true (Alphabet.char_mem_trackChars htrack) (.inl htrack)
  · rw [hway, Alphabet.char_horizontal_mem_iff hblank]
    simp [Glyph.isTrack]
  · rw [hempty]
    refine iff_of_false hblank ?_
    simp [Glyph.isTrack]

/-- In a gap that is drawn like a track the character of a track stands where none runs. -/
theorem not_reveals_of_isGap {drawn : Grid × List Track} (hshows : drawn.1.Shows drawn.2)
    (hgap : Track.IsGap drawn.2 row column) (hdisguise : a.DisguisesWays) : ¬ Reveals a drawn := by
  intro hreveals
  have hway := hshows.cell_eq_horizontal_iff.mpr hgap
  have hne : drawn.1.cell row column ≠ .empty := by
    rw [hway]
    decide
  obtain ⟨hrow, hcolumn⟩ := inside_of_cell hshows.rectangular hne
  have hshown := shown?_of_cell hshows.rectangular hway (by decide) a
  obtain ⟨t, ht, hc, hcovers⟩ := (hreveals row column hrow hgap.1 hcolumn).mp
    ⟨_, hdisguise.char_horizontal_mem, hshown⟩
  exact hgap.2.1 t ht hc hcovers

end Grid

namespace Config

variable {config : Config} (hsound : config.fault? = none)

include hsound

theorem track_shown_iff_of_run {rows : ℕ} {edges : List Edge} {g : Grid} {tracks : List Track}
    (hdrawn : (Grid.empty rows).routeAll edges = (g, tracks)) {row column : ℕ} (hrow : row < rows)
    (hpos : 1 ≤ column) (hcolumn : column < g.depth) :
    (∃ c ∈ config.alphabet.trackChars,
        shown? (g.picture config.alphabet) row column = some c) ↔
      (∃ t ∈ tracks, t.column = column ∧ t.edge.Covers row) ∨
        (Track.IsGap tracks row column ∧ config.alphabet.DisguisesWays) := by
  obtain ⟨rfl, hshows⟩ := Grid.shows_of_routeAll hdrawn
  exact hshows.track_shown_iff (blank_not_mem hsound) hrow hpos hcolumn

/-- In the picture of a sound configuration the characters of tracks stand where tracks run, and in
the gaps if the ways are drawn with one of them. So of the sound configurations just those that do
not draw ways like tracks show in every picture where tracks run. -/
theorem reveals_iff :
    (∀ (rows : ℕ) (edges : List Edge) (g : Grid) (tracks : List Track),
        (Grid.empty rows).routeAll edges = (g, tracks) →
        ∀ row column, row < rows → 1 ≤ column → column < g.depth →
          ((∃ c ∈ config.alphabet.trackChars,
              shown? (g.picture config.alphabet) row column = some c) ↔
            (∃ t ∈ tracks, t.column = column ∧ t.edge.Covers row) ∨
              (Track.IsGap tracks row column ∧ config.alphabet.DisguisesWays))) ∧
      ((∀ (rows : ℕ) (edges : List Edge), (∀ e ∈ edges, e.hi < rows) →
          Grid.Reveals config.alphabet ((Grid.empty rows).routeAll edges)) ↔
        ¬ config.alphabet.DisguisesWays) := by
  refine ⟨fun _ _ _ _ hdrawn _ _ => track_shown_iff_of_run hsound hdrawn, ?_, ?_⟩
  · intro hreveals hdisguise
    have hshows := (Grid.shows_empty 4).routeAll Edge.passing
    exact Grid.not_reveals_of_isGap hshows Grid.isGap_passing hdisguise (hreveals 4 _ (by decide))
  · intro hplain rows edges _ row column hrow hpos hcolumn
    have hrow' : row < rows := by
      rw [Grid.rows_routeAll] at hrow
      exact hrow
    exact (track_shown_iff_of_run hsound rfl hrow' hpos hcolumn).trans
      (or_iff_left fun hgap => hplain hgap.2)

end Config

/-- Ways with a character of their own disguise nothing. -/
theorem Config.reveals_iff_hue :
    ({ alphabet := Alphabet.boxes.withHorizontal '─' } : Config).fault? = none ∧
      Grid.Reveals (Alphabet.boxes.withHorizontal '─')
        ((Grid.empty 4).routeAll Edge.passing) := by
  have hsound : ({ alphabet := Alphabet.boxes.withHorizontal '─' } : Config).fault? = none := by
    decide
  have hplain : ¬ (Alphabet.boxes.withHorizontal '─').DisguisesWays := by
    simp [Alphabet.DisguisesWays, Alphabet.withHorizontal, Alphabet.trackChars, Alphabet.boxes]
  exact ⟨hsound, (reveals_iff hsound).2.mpr hplain 4 _ (by decide)⟩

/-- A configuration whose ways are drawn with the bar is sound, but its picture shows a bar in the
first column above the first row of the only track there. -/
theorem Grid.not_reveals_bars :
    ({ alphabet := Alphabet.boxes.withHorizontal '│' } : Config).fault? = none ∧
      (∀ e ∈ Edge.passing, e.hi < 4) ∧
      shown? (((empty 4).routeAll Edge.passing).1.picture
        (Alphabet.boxes.withHorizontal '│')) 0 1 = some '│' ∧
      (¬ ∃ t ∈ ((empty 4).routeAll Edge.passing).2, t.column = 1 ∧ t.edge.Covers 0) ∧
      ¬ Reveals (Alphabet.boxes.withHorizontal '│') ((empty 4).routeAll Edge.passing) := by
  have hdisguise : (Alphabet.boxes.withHorizontal '│').DisguisesWays := by
    simp [Alphabet.DisguisesWays, Alphabet.withHorizontal, Alphabet.trackChars, Alphabet.boxes]
  have hshows := (shows_empty 4).routeAll Edge.passing
  have hway := hshows.cell_eq_horizontal_iff.mpr isGap_passing
  refine ⟨by decide, by decide, shown?_of_cell hshows.rectangular hway (by decide) _, ?_,
    not_reveals_of_isGap hshows isGap_passing hdisguise⟩
  rintro ⟨t, ht, hc, hcovers⟩
  exact isGap_passing.2.1 t ht hc hcovers

end JumpArrows
