import JumpArrows.Layout
import JumpArrows.Proofs.FirstFit
import JumpArrows.Proofs.SortedEdges

/-! # All edges of a layout are routed

The edges of a routine lie within its rows, so the grid of a layout takes every one of them. No two
leave one row, so an edge stands for one track alone, and its column can be looked up. -/

namespace JumpArrows

namespace Edge

def PointsAlong (e : Edge) : Prop :=
  (e.direction = .forward ↔ e.source < e.target) ∧
    (e.direction = .backward ↔ e.target < e.source) ∧
    (e.direction = .loop ↔ e.source = e.target)

theorem pointsAlong_between (source target : ℕ) : (between source target).PointsAlong := by
  rw [PointsAlong, between, Direction.between]
  split_ifs with hlt hgt <;> simp <;> omega

variable {config : Config} {lines : List Instruction} {e f : Edge}

theorem hi_lt_of_mem (h : e ∈ ofLines config lines) : e.hi < lines.length := by
  obtain ⟨i, j, -, rfl⟩ := (mem_ofLines_iff config lines).mp h
  exact max_lt i.isLt j.isLt

theorem pointsAlong_of_mem (h : e ∈ ofLines config lines) : e.PointsAlong := by
  obtain ⟨i, j, -, rfl⟩ := (mem_ofLines_iff config lines).mp h
  exact pointsAlong_between i j

/-- Only one edge leaves a row. -/
theorem eq_of_source_eq (he : e ∈ ofLines config lines) (hf : f ∈ ofLines config lines)
    (h : e.source = f.source) : e = f := by
  obtain ⟨i, j, hij, rfl⟩ := (mem_ofLines_iff config lines).mp he
  obtain ⟨i', k, hik, rfl⟩ := (mem_ofLines_iff config lines).mp hf
  obtain rfl : i = i' := Fin.ext h
  rw [hij.unique hik]

theorem nodup_sources (config : Config) (lines : List Instruction) :
    ((ofLines config lines).map source).Nodup :=
  (nodup_ofLines config lines).map_on fun _ he _ hf => eq_of_source_eq he hf

/-- An edge has one of the three directions. -/
theorem countP_directions (edges : List Edge) :
    edges.countP (·.direction == .forward) + edges.countP (·.direction == .backward) +
        edges.countP (·.direction == .loop) = edges.length := by
  induction edges with
  | nil => rfl
  | cons e edges ih =>
    simp only [List.countP_cons, List.length_cons]
    cases e.direction <;> simp <;> omega

end Edge

namespace Layout

variable (config : Config) (lines : List Instruction)

/-- The grid of a layout has room for all its edges. -/
theorem edges_tracks :
    (ofLines config lines).tracks.map Track.edge = (ofLines config lines).edges := by
  change ((Grid.empty lines.length).routeAll (Edge.ofLines config lines)).2.map Track.edge =
    Edge.ofLines config lines
  rw [Grid.edges_routeAll, List.filter_eq_self]
  exact fun e he => decide_eq_true (Edge.hi_lt_of_mem he)

variable {l : Layout}

/-- If no two tracks are of one edge, the column of an edge is that of its track. -/
theorem columnOf_eq_some (h : (l.tracks.map Track.edge).Nodup) {t : Track} (ht : t ∈ l.tracks) :
    l.columnOf t.edge = some t.column := by
  cases hfind : l.tracks.find? (·.edge == t.edge) with
  | none => exact absurd (beq_self_eq_true t.edge) (List.find?_eq_none.mp hfind t ht)
  | some u =>
    have hedge : u.edge = t.edge := by simpa using List.find?_some hfind
    have heq : u = t :=
      List.inj_on_of_nodup_map h (List.mem_of_find?_eq_some hfind) ht hedge
    rw [columnOf, hfind, Option.map_some, heq]

theorem columnOf_eq_none {e : Edge} (h : e ∉ l.tracks.map Track.edge) : l.columnOf e = none := by
  rw [columnOf, Option.map_eq_none_iff, List.find?_eq_none]
  intro t ht hedge
  exact h (List.mem_map.mpr ⟨t, ht, eq_of_beq hedge⟩)

/-- A layout routes the edges of its instructions and nothing else. They stay within the rows, point
as their rows tell, and leave different rows; so each has its own column, no other edge has one, and
the counts by direction add up. -/
theorem ofLines_routes :
    (ofLines config lines).tracks.map Track.edge = (ofLines config lines).edges ∧
      (ofLines config lines).edges = Edge.ofLines config lines ∧
      (∀ e ∈ (ofLines config lines).edges,
        e.source < lines.length ∧ e.target < lines.length ∧ e.PointsAlong) ∧
      ((ofLines config lines).edges.map Edge.source).Nodup ∧
      (∀ t ∈ (ofLines config lines).tracks,
        (ofLines config lines).columnOf t.edge = some t.column) ∧
      (∀ e ∉ (ofLines config lines).edges, (ofLines config lines).columnOf e = none) ∧
      (ofLines config lines).summary.forward + (ofLines config lines).summary.backward +
          (ofLines config lines).summary.loops = (ofLines config lines).edges.length ∧
      (ofLines config lines).edges.length = (ofLines config lines).tracks.length := by
  have htracks := edges_tracks config lines
  have hnodup : ((ofLines config lines).tracks.map Track.edge).Nodup := by
    rw [htracks]
    exact Edge.nodup_ofLines config lines
  refine ⟨htracks, rfl, fun e he => ?_, Edge.nodup_sources config lines,
    fun t ht => columnOf_eq_some hnodup ht, fun e he => columnOf_eq_none ?_,
    Edge.countP_directions _, ?_⟩
  · have hhi := Edge.hi_lt_of_mem he
    exact ⟨(le_max_left _ _).trans_lt hhi, (le_max_right _ _).trans_lt hhi,
      Edge.pointsAlong_of_mem he⟩
  · rwa [htracks]
  · rw [← htracks, List.length_map]

end Layout

end JumpArrows
