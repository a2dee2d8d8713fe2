import JumpArrows.Proofs.FirstFit
import Mathlib.Data.Finset.Lattice.Fold

/-! # How many columns a margin takes

Tracks that cross one row lie in different columns, so a margin has at least as many columns of
tracks as any row has edges that cross it. First fit takes no more if the edges come in the order of
their first rows: whatever keeps an edge out of a column then crosses its first row, and there is
one such edge for every column that it is kept out of. -/

namespace JumpArrows

instance (e : Edge) (row : ℕ) : Decidable (e.Covers row) := inferInstanceAs (Decidable (_ ∧ _))

def Edge.crossings (edges : List Edge) (row : ℕ) : ℕ :=
  edges.countP (·.Covers row)

theorem Edge.crossings_mono {edges edges' : List Edge} (h : edges.Sublist edges') (row : ℕ) :
    crossings edges row ≤ crossings edges' row :=
  h.countP_le

namespace Track

variable {tracks : List Track} {row : ℕ}

def crossing (tracks : List Track) (row : ℕ) : List Track :=
  tracks.filter (·.edge.Covers row)

theorem length_crossing :
    (crossing tracks row).length = Edge.crossings (tracks.map Track.edge) row := by
  rw [Edge.crossings, List.countP_map, List.countP_eq_length_filter]
  rfl

theorem mem_crossing_iff {t : Track} :
    t ∈ crossing tracks row ↔ t ∈ tracks ∧ t.edge.Covers row := by
  simp [crossing]

theorem nodup_columns_crossing (h : tracks.Pairwise Avoids) :
    ((crossing tracks row).map Track.column).Nodup := by
  rw [List.Nodup, List.pairwise_map]
  refine (h.filter _).imp_of_mem fun {t u} ht hu havoids hcolumn => ?_
  exact havoids hcolumn ⟨row, (mem_crossing_iff.mp ht).2, (mem_crossing_iff.mp hu).2⟩

/-- Tracks that avoid each other take a column for each of those that cross a row. -/
theorem crossings_le {last : ℕ} (havoids : tracks.Pairwise Avoids)
    (hcolumns : ∀ t ∈ tracks, 1 ≤ t.column ∧ t.column ≤ last) (row : ℕ) :
    Edge.crossings (tracks.map Track.edge) row ≤ last := by
  have hsubset : (crossing tracks row).map Track.column ⊆ List.range' 1 last := by
    intro c hc
    obtain ⟨t, ht, rfl⟩ := List.mem_map.mp hc
    have hcolumn := hcolumns t (mem_crossing_iff.mp ht).1
    rw [List.mem_range'_1]
    omega
  have hlength := (List.subperm_of_subset (nodup_columns_crossing havoids) hsubset).length_le
  rwa [List.length_map, List.length_range', length_crossing] at hlength

/-- If no track before it begins later, a track in the first free column has a track before it for
every column in front of its own, and these tracks all cross its first row. -/
theorem column_le_crossings {before : List Track} {t : Track}
    (hleast : IsLeast {c | 1 ≤ c ∧ ∀ u ∈ before, u.column = c → ¬ u.edge.Overlaps t.edge} t.column)
    (hsorted : ∀ u ∈ before, u.edge.lo ≤ t.edge.lo) :
    t.column ≤ Edge.crossings ((before ++ [t]).map Track.edge) t.edge.lo := by
  have hsubset : List.range' 1 t.column ⊆
      (crossing (before ++ [t]) t.edge.lo).map Track.column := by
    intro c hc
    rw [List.mem_range'_1] at hc
    rw [List.mem_map]
    rcases (show c ≤ t.column by omega).eq_or_lt with rfl | hlt
    · exact ⟨t, mem_crossing_iff.mpr ⟨by simp, le_rfl, t.edge.lo_le_hi⟩, rfl⟩
    · -- The column in front is taken. What takes it begins no later and meets the edge, so it
      -- reaches the row where the edge begins.
      have hblocked : ¬ ∀ u ∈ before, u.column = c → ¬ u.edge.Overlaps t.edge :=
        fun hfree => hlt.not_ge (hleast.2 ⟨hc.1, hfree⟩)
      push Not at hblocked
      obtain ⟨u, hu, rfl, hoverlaps⟩ := hblocked
      have hcovers : u.edge.Covers t.edge.lo :=
        ⟨hsorted u hu, ((Edge.overlaps_iff _ _).mp hoverlaps).2⟩
      exact ⟨u, mem_crossing_iff.mpr ⟨List.mem_append_left _ hu, hcovers⟩, rfl⟩
  have hlength := (List.subperm_of_subset List.nodup_range' hsubset).length_le
  rwa [List.length_map, List.length_range', length_crossing] at hlength

end Track

/-- First fit on edges in the order of their first rows: the column of a track is at most the number
of edges that cross its first row. -/
theorem FirstFit.column_le {before tracks : List Track} (h : FirstFit before tracks)
    (hsorted : (before ++ tracks).Pairwise (·.edge.lo ≤ ·.edge.lo)) :
    ∀ t ∈ tracks,
      t.column ≤ Edge.crossings ((before ++ tracks).map Track.edge) t.edge.lo := by
  induction tracks generalizing before with
  | nil => simp
  | cons t tracks ih =>
    obtain ⟨hleast, hrest⟩ := h
    have happend : before ++ t :: tracks = (before ++ [t]) ++ tracks := by simp
    rw [List.forall_mem_cons]
    constructor
    · have hbefore : ∀ u ∈ before, u.edge.lo ≤ t.edge.lo :=
        fun u hu => (List.pairwise_append.mp hsorted).2.2 u hu t List.mem_cons_self
      refine (Track.column_le_crossings hleast hbefore).trans (Edge.crossings_mono ?_ _)
      rw [happend]
      exact (List.sublist_append_left _ _).map _
    · rw [happend] at hsorted ⊢
      exact ih hrest hsorted

namespace Grid

/-- Tracks lie within the grid that shows them. -/
theorem Shows.column_lt {g : Grid} {tracks : List Track} (h : g.Shows tracks) {t : Track}
    (ht : t ∈ tracks) : t.column < g.depth := by
  rw [h.depth]
  exact Nat.lt_succ_of_le (List.le_max_of_le (List.mem_map_of_mem ht) le_rfl)

/-- A grid has a column for each track that crosses a row, and the one of the markers. -/
theorem Shows.crossings_lt {g : Grid} {tracks : List Track} (h : g.Shows tracks) (row : ℕ) :
    Edge.crossings (tracks.map Track.edge) row < g.depth := by
  have hcolumns : ∀ t ∈ tracks, 1 ≤ t.column ∧ t.column ≤ g.depth - 1 :=
    fun t ht => ⟨h.behind t ht, Nat.le_sub_one_of_lt (h.column_lt ht)⟩
  have hpos : 0 < g.depth := by
    rw [depth_eq]
    exact Nat.succ_pos _
  exact Nat.lt_of_le_sub_one hpos (Track.crossings_le h.avoids hcolumns row)

section Runs

variable {rows : ℕ} {edges : List Edge} (hrows : ∀ e ∈ edges, e.hi < rows)

include hrows

theorem crossings_lt_depth (row : ℕ) :
    Edge.crossings edges row < ((empty rows).routeAll edges).1.depth := by
  have hlt := ((shows_empty rows).routeAll edges).crossings_lt row
  rwa [List.nil_append, edges_routeAll_of_fits hrows] at hlt

theorem sup_crossings_lt_depth :
    (Finset.range rows).sup (Edge.crossings edges) < ((empty rows).routeAll edges).1.depth := by
  have hpos : 0 < ((empty rows).routeAll edges).1.depth :=
    Nat.zero_lt_of_lt (crossings_lt_depth hrows 0)
  exact (Finset.sup_lt_iff hpos).mpr fun row _ => crossings_lt_depth hrows row

/-- Edges in the order of their first rows take no more columns than cross the most crowded row. -/
theorem depth_le_sup_crossings (hsorted : edges.Pairwise (·.lo ≤ ·.lo)) :
    ((empty rows).routeAll edges).1.depth ≤ (Finset.range rows).sup (Edge.crossings edges) + 1 := by
  have hedges := edges_routeAll_of_fits hrows
  have hcolumns : ∀ t ∈ ((empty rows).routeAll edges).2,
      t.column ≤ Edge.crossings edges t.edge.lo := by
    have hlos : ((empty rows).routeAll edges).2.Pairwise (·.edge.lo ≤ ·.edge.lo) := by
      rwa [← hedges, List.pairwise_map] at hsorted
    have hle := ((shows_empty rows).firstFit_routeAll edges).column_le hlos
    rwa [List.nil_append, hedges] at hle
  rw [((shows_empty rows).routeAll edges).depth, List.nil_append]
  apply Nat.succ_le_succ
  apply List.max_le_of_forall_le
  intro c hc
  obtain ⟨t, ht, rfl⟩ := List.mem_map.mp hc
  have he : t.edge ∈ edges := hedges ▸ List.mem_map_of_mem ht
  have hlo : t.edge.lo < rows := t.edge.lo_le_hi.trans_lt (hrows t.edge he)
  exact (hcolumns t ht).trans (Finset.le_sup (Finset.mem_range.mpr hlo))

end Runs

/-- A margin is wider than the number of edges that cross any of its rows. If the edges come in the
order of their first rows, it is wider by one than the number that cross the most crowded row, and
no way to give the edges columns in which they avoid each other takes fewer. -/
theorem depth_of_crossings (rows : ℕ) (edges : List Edge) (hrows : ∀ e ∈ edges, e.hi < rows) :
    (∀ row, Edge.crossings edges row + 1 ≤ ((empty rows).routeAll edges).1.depth) ∧
      (edges.Pairwise (·.lo ≤ ·.lo) →
        ((empty rows).routeAll edges).1.depth =
            (Finset.range rows).sup (Edge.crossings edges) + 1 ∧
          ∀ (tracks : List Track) (last : ℕ), tracks.map Track.edge = edges →
            tracks.Pairwise Track.Avoids → (∀ t ∈ tracks, 1 ≤ t.column ∧ t.column ≤ last) →
            ((empty rows).routeAll edges).1.depth ≤ last + 1) := by
  refine ⟨crossings_lt_depth hrows, fun hsorted => ?_⟩
  have hle := depth_le_sup_crossings hrows hsorted
  refine ⟨hle.antisymm (sup_crossings_lt_depth hrows), ?_⟩
  intro tracks last hedges havoids hcolumns
  have hsup : (Finset.range rows).sup (Edge.crossings edges) ≤ last := by
    apply Finset.sup_le
    intro row _
    rw [← hedges]
    exact Track.crossings_le havoids hcolumns row
  exact hle.trans (Nat.succ_le_succ hsup)

/-- Three jumps, of which two at most cross one row. -/
theorem depth_of_crossings_three :
    (∀ e ∈ [Edge.between 0 4, .between 8 2, .between 6 9], e.hi < 10) ∧
      [Edge.between 0 4, .between 8 2, .between 6 9].Pairwise (·.lo ≤ ·.lo) ∧
      ((empty 10).routeAll [.between 0 4, .between 8 2, .between 6 9]).1.depth =
        (Finset.range 10).sup (Edge.crossings [.between 0 4, .between 8 2, .between 6 9]) + 1 := by
  have hrows : ∀ e ∈ [Edge.between 0 4, .between 8 2, .between 6 9], e.hi < 10 := by decide
  have hsorted : [Edge.between 0 4, .between 8 2, .between 6 9].Pairwise (·.lo ≤ ·.lo) := by decide
  exact ⟨hrows, hsorted, ((depth_of_crossings 10 _ hrows).2 hsorted).1⟩

/-- In another order first fit may take more: no row here is crossed by three edges, but the last
edge meets the third one in the first column and the second one in the second. -/
example :
    let edges : List Edge := [.between 0 1, .between 1 3, .between 5 6, .between 3 5]
    (∀ row < 7, Edge.crossings edges row ≤ 2) ∧ ((empty 7).routeAll edges).1.depth = 4 := by
  decide

end Grid

end JumpArrows
