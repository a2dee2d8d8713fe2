import JumpArrows.Proofs.Renaming
import JumpArrows.Proofs.RoutedEdges

/-! # Columns and the order of rows

First fit asks of two spans only whether they share a row, which the order of their four ends tells.
So edges whose rows are moved apart keep their columns, however many rows come in between. A routine
into which lines are put that are no jumps and no targets has the edges that it had, at their new
rows, and therefore the same columns. -/

namespace JumpArrows

/-! ## Spans -/

/-- The second edge joins the rows to which `g` moves those of the first one. Their directions may
differ. -/
def Edge.Moves (g : ℕ → ℕ) (e e' : Edge) : Prop :=
  e'.source = g e.source ∧ e'.target = g e.target

def Track.Moves (g : ℕ → ℕ) (t t' : Track) : Prop :=
  t.edge.Moves g t'.edge ∧ t'.column = t.column

section Spans

variable {g : ℕ → ℕ} {rows : ℕ} (hg : StrictMonoOn g (Set.Iio rows))

include hg

theorem Edge.Moves.lo {e e' : Edge} (h : e.Moves g e') (he : e.hi < rows) : e'.lo = g e.lo := by
  have hsource : e.source < rows := (le_max_left _ _).trans_lt he
  have htarget : e.target < rows := (le_max_right _ _).trans_lt he
  rw [Edge.lo, h.1, h.2, Edge.lo, hg.monotoneOn.map_min hsource htarget]

theorem Edge.Moves.hi {e e' : Edge} (h : e.Moves g e') (he : e.hi < rows) : e'.hi = g e.hi := by
  have hsource : e.source < rows := (le_max_left _ _).trans_lt he
  have htarget : e.target < rows := (le_max_right _ _).trans_lt he
  rw [Edge.hi, h.1, h.2, Edge.hi, hg.monotoneOn.map_max hsource htarget]

theorem Edge.Moves.overlaps_iff {e e' f f' : Edge} (h : e.Moves g e') (he : e.hi < rows)
    (hf : f.Moves g f') (hf' : f.hi < rows) : e'.Overlaps f' ↔ e.Overlaps f := by
  have helo : e.lo < rows := e.lo_le_hi.trans_lt he
  have hflo : f.lo < rows := f.lo_le_hi.trans_lt hf'
  rw [Edge.overlaps_iff, Edge.overlaps_iff, h.lo hg he, h.hi hg he, hf.lo hg hf', hf.hi hg hf',
    hg.le_iff_le helo hf', hg.le_iff_le hflo he]

/-- The columns that are free for an edge are free for it at its new place. -/
theorem Track.free_iff {before before' : List Track} {e e' : Edge}
    (hbefore : List.Forall₂ (Track.Moves g) before before')
    (hrows : ∀ t ∈ before, t.edge.hi < rows) (h : e.Moves g e') (he : e.hi < rows) (c : ℕ) :
    (∀ u ∈ before', u.column = c → ¬ u.edge.Overlaps e') ↔
      ∀ u ∈ before, u.column = c → ¬ u.edge.Overlaps e := by
  induction hbefore with
  | nil => simp
  | @cons t t' before before' ht _ ih =>
    have hhead := hrows t List.mem_cons_self
    rw [List.forall_mem_cons, List.forall_mem_cons, ht.2, ht.1.overlaps_iff hg hhead h he,
      ih fun u hu => hrows u (List.mem_cons_of_mem _ hu)]

/-- First fit on moved edges: every track has the column that it had. -/
theorem FirstFit.moves {before before' tracks tracks' : List Track} (h : FirstFit before tracks)
    (h' : FirstFit before' tracks') (hbefore : List.Forall₂ (Track.Moves g) before before')
    (hedges : List.Forall₂ (Edge.Moves g) (tracks.map Track.edge) (tracks'.map Track.edge))
    (hrows : ∀ t ∈ before ++ tracks, t.edge.hi < rows) :
    List.Forall₂ (Track.Moves g) tracks tracks' := by
  -- The tracks that are there already have the same columns. So the same columns are free for the
  -- next edge, the least of them is the same, and the tracks behind it start from the same again.
  induction tracks generalizing before before' tracks' with
  | nil =>
    cases tracks' with
    | nil => exact .nil
    | cons t' tracks' => cases hedges
  | cons t tracks ih =>
    cases tracks' with
    | nil => cases hedges
    | cons t' tracks' =>
      obtain ⟨hleast, hrest⟩ := h
      obtain ⟨hleast', hrest'⟩ := h'
      obtain ⟨hedge, hedges⟩ := List.forall₂_cons.mp hedges
      have hhead : t.edge.hi < rows := hrows t (by simp)
      have hfree := Track.free_iff hg hbefore
        (fun u hu => hrows u (List.mem_append_left _ hu)) hedge hhead
      simp only [hfree] at hleast'
      have ht : t.Moves g t' := ⟨hedge, hleast'.unique hleast⟩
      refine .cons ht (ih hrest hrest' ?_ hedges ?_)
      · exact List.rel_append hbefore (.cons ht .nil)
      · simpa using hrows

end Spans

namespace Grid

variable {g : ℕ → ℕ} {rows rows' : ℕ} {edges edges' : List Edge}

/-- Edges that are moved apart are routed as they were. -/
theorem moves_routeAll (hg : StrictMonoOn g (Set.Iio rows)) (hrows : ∀ e ∈ edges, e.hi < rows)
    (hmoves : List.Forall₂ (Edge.Moves g) edges edges') (hrows' : ∀ e ∈ edges', e.hi < rows') :
    List.Forall₂ (Track.Moves g) ((empty rows).routeAll edges).2
      ((empty rows').routeAll edges').2 := by
  have hedges := edges_routeAll_of_fits hrows
  have hedges' := edges_routeAll_of_fits hrows'
  apply ((shows_empty rows).firstFit_routeAll edges).moves hg
    ((shows_empty rows').firstFit_routeAll edges') .nil
  · rwa [hedges, hedges']
  · intro t ht
    apply hrows
    rw [← hedges]
    exact List.mem_map_of_mem ht

theorem columns_routeAll_of_moves (hg : StrictMonoOn g (Set.Iio rows))
    (hrows : ∀ e ∈ edges, e.hi < rows) (hmoves : List.Forall₂ (Edge.Moves g) edges edges')
    (hrows' : ∀ e ∈ edges', e.hi < rows') :
    ((empty rows').routeAll edges').2.map Track.column =
        ((empty rows).routeAll edges).2.map Track.column ∧
      ((empty rows').routeAll edges').1.depth = ((empty rows).routeAll edges).1.depth := by
  have hcolumns : ((empty rows').routeAll edges').2.map Track.column =
      ((empty rows).routeAll edges).2.map Track.column := by
    have hmoved := moves_routeAll hg hrows hmoves hrows'
    rw [eq_comm, ← List.forall₂_eq_eq_eq, List.forall₂_map_left_iff, List.forall₂_map_right_iff]
    exact hmoved.imp fun t t' h => h.2.symm
  refine ⟨hcolumns, ?_⟩
  rw [((shows_empty rows).routeAll edges).depth, ((shows_empty rows').routeAll edges').depth,
    List.nil_append, List.nil_append, hcolumns]

end Grid

/-! ## Lines that are put in -/

namespace Pass

variable (pass : Pass) (policy : LoopPolicy)

/-- A site that neither jumps nor is waited for is passed by. -/
theorem run_idle {queue : List Waiting} {site : Site} (htarget : site.target? = none)
    (hqueue : ∀ w ∈ queue, w.target ≠ site.address) (sites : List Site) :
    pass.run policy queue (site :: sites) = pass.run policy queue sites := by
  have htaken : queue.filter (·.target == site.address) = [] := by
    simpa [List.filter_eq_nil_iff] using hqueue
  have hleft : queue.filter (·.target != site.address) = queue := by
    simpa [List.filter_eq_self] using hqueue
  have hloop : pass.loop policy site = [] := by
    cases pass with
    | forward => rfl
    | backward => simp [backward_loop, htarget]
  have hwaiting : pass.waiting site = [] := by simp [waiting, htarget]
  rw [run, htaken, hleft, hloop, hwaiting, List.append_nil, List.append_nil, List.map_nil,
    List.nil_append]

/-- A pass finds the same if it leaves out sites that neither jump nor lie at a target. -/
theorem run_filter {targets : Set UInt64} {keep : Site → Bool} {queue : List Waiting}
    {sites : List Site} (hqueue : ∀ w ∈ queue, w.target ∈ targets)
    (hsites : ∀ site ∈ sites, ∀ target ∈ site.target?, target ∈ targets)
    (hidle : ∀ site ∈ sites, ¬ keep site → site.target? = none ∧ site.address ∉ targets) :
    pass.run policy queue (sites.filter keep) = pass.run policy queue sites := by
  induction sites generalizing queue with
  | nil => rfl
  | cons site sites ih =>
    have hrest := fun s hs => hsites s (List.mem_cons_of_mem site hs)
    have hidle' := fun s hs => hidle s (List.mem_cons_of_mem site hs)
    by_cases hkeep : keep site
    · have hnext := pass.target_mem_of_mem_next site.address hqueue (hsites site List.mem_cons_self)
      rw [List.filter_cons_of_pos hkeep, run, run, ih hnext hrest hidle']
    · obtain ⟨htarget, haddress⟩ := hidle site List.mem_cons_self hkeep
      have hunmet : ∀ w ∈ queue, w.target ≠ site.address :=
        fun w hw heq => haddress (heq ▸ hqueue w hw)
      rw [List.filter_cons_of_neg hkeep, ih hqueue hrest hidle',
        pass.run_idle policy htarget hunmet]

end Pass

namespace Site

/-- Sites in the order of their rows are told by which they are. -/
theorem eq_of_mem_iff {sites sites' : List Site} (h : sites.Pairwise (·.row < ·.row))
    (h' : sites'.Pairwise (·.row < ·.row)) (hmem : ∀ site, site ∈ sites ↔ site ∈ sites') :
    sites = sites' := by
  have hnodup {l : List Site} (hl : l.Pairwise (·.row < ·.row)) : l.Nodup :=
    hl.imp fun {s t} hlt heq => hlt.ne (congrArg row heq)
  have hperm : sites.Perm sites' := (List.perm_ext_iff_of_nodup (hnodup h) (hnodup h')).mpr hmem
  exact hperm.eq_of_pairwise (fun s t _ _ hst hts => absurd hst hts.asymm) h h'

variable (config : Config) (lines : List Instruction)

theorem pairwise_ofLines : (ofLines config lines).Pairwise (·.row < ·.row) := by
  rw [← List.pairwise_map, rows_ofLines]
  exact List.pairwise_lt_range

theorem mem_ofLines_iff {site : Site} :
    site ∈ ofLines config lines ↔
      ∃ line ∈ lines[site.row]?, site = ⟨site.row, line.address, line.target? config⟩ := by
  rw [ofLines, List.mem_mapIdx]
  constructor
  · rintro ⟨row, hrow, rfl⟩
    exact ⟨lines[row], List.getElem?_eq_getElem hrow, rfl⟩
  · rintro ⟨line, hline, hsite⟩
    obtain ⟨hrow, rfl⟩ := List.getElem?_eq_some_iff.mp hline
    exact ⟨site.row, hrow, hsite.symm⟩

theorem row_lt_of_mem {site : Site} (h : site ∈ ofLines config lines) :
    site.row < lines.length := by
  obtain ⟨line, hline, -⟩ := (mem_ofLines_iff config lines).mp h
  exact (List.getElem?_eq_some_iff.mp hline).1

end Site

/-- The second routine is the first one with lines put in that are no jumps and at which no jump
aims; `g` tells where the old rows have gone. -/
structure Padded (config : Config) (g : ℕ → ℕ) (lines lines' : List Instruction) : Prop where
  increasing : StrictMonoOn g (Set.Iio lines.length)
  kept : ∀ row, ∀ line ∈ lines[row]?, ∃ line' ∈ lines'[g row]?,
    line'.address = line.address ∧ line'.target? config = line.target? config
  idle : ∀ row, row ∉ g '' Set.Iio lines.length → ∀ line ∈ lines'[row]?,
    line.target? config = none ∧ ∀ other ∈ lines, other.target? config ≠ some line.address

namespace Padded

variable {config : Config} {g : ℕ → ℕ} {lines lines' : List Instruction}
  (h : Padded config g lines lines')

include h

/-- An old row looks to the passes as it did. -/
theorem exists_old {row : ℕ} (hrow : row < lines.length) {line' : Instruction}
    (hline' : line' ∈ lines'[g row]?) :
    ∃ line ∈ lines[row]?,
      line'.address = line.address ∧ line'.target? config = line.target? config := by
  have hline : lines[row] ∈ lines[row]? := List.getElem?_eq_getElem hrow
  obtain ⟨kept, hkept, heq⟩ := h.kept row _ hline
  obtain rfl := Option.mem_unique hkept hline'
  exact ⟨_, hline, heq⟩

open Classical in
/-- The rows that were there already are the old sites at their new rows. -/
theorem filter_sites :
    (Site.ofLines config lines').filter (·.row ∈ g '' Set.Iio lines.length) =
      (Site.ofLines config lines).map (.rename g id) := by
  apply Site.eq_of_mem_iff ((Site.pairwise_ofLines config lines').filter _)
  · rw [List.pairwise_map]
    refine (Site.pairwise_ofLines config lines).imp_of_mem fun {s t} hs ht hlt => ?_
    exact h.increasing (Site.row_lt_of_mem config lines hs) (Site.row_lt_of_mem config lines ht) hlt
  · intro site
    rw [List.mem_filter, decide_eq_true_eq, Site.mem_ofLines_iff, List.mem_map]
    constructor
    · rintro ⟨⟨line', hline', hsite⟩, row, hrow, hg⟩
      rw [← hg] at hline'
      obtain ⟨line, hline, haddress, htarget⟩ := h.exists_old hrow hline'
      refine ⟨⟨row, line.address, line.target? config⟩, ?_, ?_⟩
      · exact (Site.mem_ofLines_iff config lines).mpr ⟨line, hline, rfl⟩
      · rw [hsite, ← hg, Site.rename, Option.map_id, haddress, htarget]
        rfl
    · rintro ⟨s, hs, rfl⟩
      obtain ⟨line, hline, hsite⟩ := (Site.mem_ofLines_iff config lines).mp hs
      obtain ⟨line', hline', haddress, htarget⟩ := h.kept s.row line hline
      refine ⟨⟨line', hline', ?_⟩, s.row, Site.row_lt_of_mem config lines hs, rfl⟩
      rw [hsite, Site.rename, Option.map_id, haddress, htarget]
      rfl

/-- Every jump is one of the old ones. -/
theorem target_mem {site : Site} (hsite : site ∈ Site.ofLines config lines') :
    ∀ target ∈ site.target?, ∃ line ∈ lines, line.target? config = some target := by
  obtain ⟨line, hline, heq⟩ := (Site.mem_ofLines_iff config lines').mp hsite
  intro target htarget
  rw [heq] at htarget
  by_cases hrow : site.row ∈ g '' Set.Iio lines.length
  · obtain ⟨row, hlt, hg⟩ := hrow
    rw [← hg] at hline
    obtain ⟨old, hold, -, hkept⟩ := h.exists_old hlt hline
    exact ⟨old, List.mem_of_getElem? hold, hkept ▸ htarget⟩
  · rw [(h.idle site.row hrow line hline).1] at htarget
    cases htarget

/-- A row that was put in is idle. -/
theorem idle_of_mem {site : Site} (hsite : site ∈ Site.ofLines config lines')
    (hrow : site.row ∉ g '' Set.Iio lines.length) :
    site.target? = none ∧ ¬ ∃ line ∈ lines, line.target? config = some site.address := by
  obtain ⟨line, hline, heq⟩ := (Site.mem_ofLines_iff config lines').mp hsite
  obtain ⟨htarget, haddress⟩ := h.idle site.row hrow line hline
  rw [heq]
  exact ⟨htarget, fun ⟨other, hother, hmeets⟩ => haddress other hother hmeets⟩

/-- The passes tell of the old rows what they told before. -/
theorem findings_eq :
    Finding.ofLines config lines' = (Finding.ofLines config lines).map (.rename g) := by
  classical
  have hrename (pass : Pass) (sites : List Site) :
      pass.run config.loops [] (sites.map (.rename g id)) =
        (pass.run config.loops [] sites).map (.rename g) :=
    pass.run_rename config.loops g (fun _ _ _ _ hab => hab) (List.forall_mem_nil _)
      fun _ _ => ⟨Set.mem_univ _, fun _ _ => Set.mem_univ _⟩
  have hskip (pass : Pass) {sites : List Site}
      (hsites : ∀ site ∈ sites, site ∈ Site.ofLines config lines') :
      pass.run config.loops [] (sites.filter (·.row ∈ g '' Set.Iio lines.length)) =
        pass.run config.loops [] sites := by
    apply pass.run_filter config.loops (List.forall_mem_nil _)
    · exact fun site hsite => h.target_mem (hsites site hsite)
    · intro site hsite hrow
      exact h.idle_of_mem (hsites site hsite) (by simpa using hrow)
  rw [Finding.ofLines, Finding.ofLines, List.map_append, ← hrename, ← hrename, List.map_reverse,
    ← h.filter_sites, ← List.filter_reverse, hskip .forward fun _ hs => hs,
    hskip .backward fun _ hs => List.mem_reverse.mp hs]

end Padded

theorem Finding.moves_edges (g : ℕ → ℕ) (findings : List Finding) :
    List.Forall₂ (Edge.Moves g) (findings.filterMap edge?)
      ((findings.map (.rename g)).filterMap edge?) := by
  induction findings with
  | nil => exact .nil
  | cons f findings ih =>
    cases f with
    | resolved source target => exact .cons ⟨rfl, rfl⟩ ih
    | loopKept row => exact .cons ⟨rfl, rfl⟩ ih
    | loopDropped row => exact ih
    | unresolved pass count => exact ih

/-- Lines that are put in re-route no edge. -/
theorem Padded.columns {config : Config} {g : ℕ → ℕ} {lines lines' : List Instruction}
    (h : Padded config g lines lines') :
    List.Forall₂ (Edge.Moves g) (Layout.ofLines config lines).edges
        (Layout.ofLines config lines').edges ∧
      (Layout.ofLines config lines').tracks.map Track.column =
        (Layout.ofLines config lines).tracks.map Track.column ∧
      (Layout.ofLines config lines').depth = (Layout.ofLines config lines).depth := by
  have hmoves : List.Forall₂ (Edge.Moves g) (Edge.ofLines config lines)
      (Edge.ofLines config lines') := by
    rw [Edge.ofLines, Edge.ofLines, h.findings_eq]
    exact Finding.moves_edges g _
  exact ⟨hmoves, Grid.columns_routeAll_of_moves h.increasing (fun _ => Edge.hi_lt_of_mem) hmoves
    fun _ => Edge.hi_lt_of_mem⟩

/-- Columns depend on the order of the rows alone. Edges whose rows are moved by an increasing
function, on a grid of any height that holds them, have the columns that they had; so lines that are
no jumps and no targets can be put into a routine, and every edge stays in its column. -/
theorem Grid.columns_of_row_order :
    (∀ (g : ℕ → ℕ) (rows rows' : ℕ) (edges edges' : List Edge),
        StrictMonoOn g (Set.Iio rows) → (∀ e ∈ edges, e.hi < rows) →
        List.Forall₂ (Edge.Moves g) edges edges' → (∀ e ∈ edges', e.hi < rows') →
        ((empty rows).routeAll edges).2.map Track.edge = edges ∧
          ((empty rows').routeAll edges').2.map Track.edge = edges' ∧
          ((empty rows').routeAll edges').2.map Track.column =
            ((empty rows).routeAll edges).2.map Track.column ∧
          ((empty rows').routeAll edges').1.depth = ((empty rows).routeAll edges).1.depth) ∧
      ∀ (config : Config) (g : ℕ → ℕ) (lines lines' : List Instruction),
        Padded config g lines lines' →
        List.Forall₂ (Edge.Moves g) (Layout.ofLines config lines).edges
            (Layout.ofLines config lines').edges ∧
          (Layout.ofLines config lines').tracks.map Track.column =
            (Layout.ofLines config lines).tracks.map Track.column ∧
          (Layout.ofLines config lines').depth = (Layout.ofLines config lines).depth := by
  refine ⟨fun g rows rows' edges edges' hg hrows hmoves hrows' => ?_,
    fun config g lines lines' h => h.columns⟩
  exact ⟨edges_routeAll_of_fits hrows, edges_routeAll_of_fits hrows',
    columns_routeAll_of_moves hg hrows hmoves hrows'⟩

/-- Two lines more behind the first two. -/
def widen (row : ℕ) : ℕ :=
  if row < 2 then row else row + 2

theorem strictMono_widen : StrictMono widen := by
  intro a b hab
  simp only [widen]
  split_ifs <;> omega

def junctionPadded : List Instruction :=
  [.ofText 0 0x10 (some "jmp 30"), .ofText 1 0x20 (some "ja 30"), .ofText 2 0x24 (some "nop"),
    .ofText 3 0x28 none, .ofText 4 0x30 (some "jmp 30"), .ofText 5 0x40 (some "jne 30"),
    .ofText 6 0x50 (some "jb ff0")]

theorem Grid.columns_of_row_order_junction :
    Padded {} widen junction junctionPadded ∧
      (Layout.ofLines {} junctionPadded).tracks.map Track.column =
        (Layout.ofLines {} junction).tracks.map Track.column ∧
      ((empty 100).routeAll [.between 0 6, .between 7 4, .between 5 5]).2.map Track.column =
        ((empty 6).routeAll [.between 0 4, .between 5 2, .between 3 3]).2.map Track.column := by
  have hpadded : Padded {} widen junction junctionPadded := by
    have hkept : ∀ row < junction.length, ∀ line ∈ junction[row]?,
        ∃ line' ∈ junctionPadded[widen row]?,
          line'.address = line.address ∧ line'.target? {} = line.target? {} := by
      decide
    have hidle : ∀ row < junctionPadded.length, (∀ old < junction.length, widen old ≠ row) →
        ∀ line ∈ junctionPadded[row]?, line.target? {} = none ∧
          ∀ other ∈ junction, other.target? {} ≠ some line.address := by
      decide
    refine ⟨strictMono_widen.strictMonoOn _, fun row line hline => ?_,
      fun row hrow line hline => ?_⟩
    · exact hkept row (List.getElem?_eq_some_iff.mp hline).1 line hline
    · refine hidle row (List.getElem?_eq_some_iff.mp hline).1 (fun old hold heq => ?_) line hline
      exact hrow ⟨old, hold, heq⟩
  refine ⟨hpadded, (columns_of_row_order.2 {} widen junction junctionPadded hpadded).2.1, ?_⟩
  exact (columns_of_row_order.1 widen 6 100 [.between 0 4, .between 5 2, .between 3 3]
    [.between 0 6, .between 7 4, .between 5 5] (strictMono_widen.strictMonoOn _) (by decide)
    (by simp [Edge.Moves, widen, Edge.between]) (by decide)).2.2.1

end JumpArrows
