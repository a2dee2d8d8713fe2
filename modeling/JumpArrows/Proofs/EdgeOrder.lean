import JumpArrows.Jump.Finding
import Mathlib.Data.List.Indexes
import Mathlib.Data.Fin.Rev
import Mathlib.Tactic

/-! # The edges of a routine and their order

A pass is first described on any sequence of sites, together with the jumps that already wait when
it starts: site `j` takes the waiting jumps that no site before it could take, and then those of
the sites before it. On the rows of a routine this gives the edges as two sweeps over the targets,
one upward and one downward, each target with its sources in the order of the sweep. -/

namespace JumpArrows

namespace Pass

/-- A pass still has the target ahead of it when it is at the address. -/
def Ahead : Pass → (address target : UInt64) → Prop
  | .backward, address, target => target < address
  | .forward, address, target => address < target

instance (pass : Pass) (address target : UInt64) : Decidable (pass.Ahead address target) :=
  match pass with
  | .backward => inferInstanceAs (Decidable (target < address))
  | .forward => inferInstanceAs (Decidable (address < target))

/-- The jump of site `i` waits until the pass comes to site `j`. -/
def Meets (pass : Pass) {n : ℕ} (sites : Fin n → Site) (i j : Fin n) : Prop :=
  i < j ∧ (sites i).target? = some (sites j).address ∧
    pass.Ahead (sites i).address (sites j).address ∧
    ∀ k, i < k → k < j → (sites k).address ≠ (sites j).address

instance (pass : Pass) {n : ℕ} (sites : Fin n → Site) (i j : Fin n) :
    Decidable (pass.Meets sites i j) :=
  inferInstanceAs (Decidable (_ ∧ _ ∧ _ ∧ _))

variable (pass : Pass) (policy : LoopPolicy) {n : ℕ}

theorem waiting_of_target {site : Site} {target : UInt64} (h : site.target? = some target) :
    pass.waiting site = if pass.Ahead site.address target then [⟨site.row, target⟩] else [] := by
  cases pass <;> simp only [waiting, h, Ahead, decide_eq_true_eq] <;> rfl

theorem not_meets_zero (sites : Fin (n + 1) → Site) (i : Fin (n + 1)) :
    ¬ pass.Meets sites i 0 :=
  fun h => Nat.not_lt_zero _ h.1

theorem meets_succ (sites : Fin (n + 1) → Site) (i j : Fin n) :
    pass.Meets sites i.succ j.succ ↔ pass.Meets (fun k => sites k.succ) i j := by
  simp [Meets, Fin.forall_fin_succ]

theorem meets_zero_succ (sites : Fin (n + 1) → Site) (j : Fin n) :
    pass.Meets sites 0 j.succ ↔
      (sites 0).target? = some (sites j.succ).address ∧
        pass.Ahead (sites 0).address (sites j.succ).address ∧
        ∀ k < j, (sites k.succ).address ≠ (sites j.succ).address := by
  simp [Meets, Fin.forall_fin_succ]

/-- The jumps of a queue that site `j` takes: they lead to its address, and no site before it has
that address. -/
def taken (sites : Fin n → Site) (queue : List Waiting) (j : Fin n) : List Waiting :=
  queue.filter fun w =>
    w.target = (sites j).address ∧ ∀ k < j, (sites k).address ≠ w.target

@[simp] theorem taken_nil (sites : Fin n → Site) (j : Fin n) : taken sites [] j = [] := rfl

theorem taken_append (sites : Fin n → Site) (q r : List Waiting) (j : Fin n) :
    taken sites (q ++ r) j = taken sites q j ++ taken sites r j :=
  List.filter_append ..

theorem taken_zero (sites : Fin (n + 1) → Site) (queue : List Waiting) :
    taken sites queue 0 = queue.filter (·.target == (sites 0).address) := by
  simp [taken, beq_eq_decide]

/-- What the first site leaves in the queue goes on to the sites behind it. -/
theorem taken_succ (sites : Fin (n + 1) → Site) (queue : List Waiting) (j : Fin n) :
    taken sites queue j.succ =
      taken (fun k => sites k.succ) (queue.filter (·.target != (sites 0).address)) j := by
  rw [taken, taken, List.filter_filter]
  apply List.filter_congr
  intro w _
  rw [Bool.eq_iff_iff]
  simp only [Bool.and_eq_true, decide_eq_true_eq, bne_iff_ne, Fin.forall_fin_succ, Fin.succ_pos,
    Fin.succ_lt_succ_iff, true_imp_iff]
  constructor
  · rintro ⟨ht, h0, hk⟩
    exact ⟨⟨ht, hk⟩, h0.symm⟩
  · rintro ⟨⟨ht, hk⟩, h0⟩
    exact ⟨ht, h0.symm, hk⟩

/-- The jump of the first site is taken by the site that it meets. -/
theorem taken_waiting (sites : Fin (n + 1) → Site) (j : Fin n) :
    taken (fun k => sites k.succ) (pass.waiting (sites 0)) j =
      if pass.Meets sites 0 j.succ then [⟨(sites 0).row, (sites j.succ).address⟩] else [] := by
  rw [if_congr (pass.meets_zero_succ sites j) rfl rfl]
  cases h : (sites 0).target? with
  | none => simp [waiting, h]
  | some target =>
    rw [pass.waiting_of_target h, taken]
    by_cases ht : target = (sites j.succ).address
    · subst ht
      by_cases ha : pass.Ahead (sites 0).address (sites j.succ).address <;>
        simp [ha, List.filter_cons]
    · by_cases ha : pass.Ahead (sites 0).address target <;> simp [ha, ht]

/-- The sources that meet site `j + 1`: perhaps the first site, then those behind it. -/
theorem filter_meets_succ (sites : Fin (n + 1) → Site) (j : Fin n) :
    (List.finRange (n + 1)).filter (pass.Meets sites · j.succ) =
      (if pass.Meets sites 0 j.succ then [0] else []) ++
        ((List.finRange n).filter (pass.Meets (fun k => sites k.succ) · j)).map Fin.succ := by
  have htail : ((List.finRange n).map Fin.succ).filter (pass.Meets sites · j.succ) =
      ((List.finRange n).filter (pass.Meets (fun k => sites k.succ) · j)).map Fin.succ := by
    rw [List.filter_map]
    simp [Function.comp_def, meets_succ]
  rw [List.finRange_succ, List.filter_cons, htail]
  by_cases h0 : pass.Meets sites 0 j.succ <;> simp [h0]

/-- The edges that a pass finds, target by target. The queue holds jumps from before the first
site. -/
theorem run_edges (sites : Fin n → Site) (queue : List Waiting) :
    (pass.run policy queue (List.ofFn sites)).filterMap Finding.edge? =
      (List.finRange n).flatMap fun j =>
        ((taken sites queue j).map fun w => .between w.row (sites j).row) ++
          (((List.finRange n).filter (pass.Meets sites · j)).map fun i =>
            .between (sites i).row (sites j).row) ++
          (pass.loop policy (sites j)).filterMap Finding.edge? := by
  induction n generalizing queue with
  | zero =>
    by_cases h : queue.isEmpty <;> simp [run, h, Finding.edge?]
  | succ n ih =>
    rw [List.ofFn_succ, run, List.filterMap_append, List.filterMap_append, ih]
    rw [List.finRange_succ, List.flatMap_cons, List.flatMap_map, ← List.finRange_succ]
    congr 1
    · have hnone : (List.finRange (n + 1)).filter (pass.Meets sites · 0) = [] := by
        simp [not_meets_zero]
      rw [hnone, taken_zero]
      simp [List.filterMap_map, Function.comp_def, Finding.edge?, List.filterMap_eq_map']
    · congr 1
      funext j
      rw [taken_append, ← taken_succ, taken_waiting, filter_meets_succ]
      by_cases h0 : pass.Meets sites 0 j.succ <;> simp [h0]

end Pass

namespace Site

def ofRow (config : Config) (lines : List Instruction) (i : Fin lines.length) : Site :=
  ⟨i, lines[i].address, lines[i].target? config⟩

theorem ofLines_eq_ofFn (config : Config) (lines : List Instruction) :
    ofLines config lines = List.ofFn (ofRow config lines) := by
  rw [ofLines, List.mapIdx_eq_ofFn]
  rfl

theorem reverse_ofLines (config : Config) (lines : List Instruction) :
    (ofLines config lines).reverse = List.ofFn fun i => ofRow config lines i.rev := by
  rw [ofLines_eq_ofFn, List.ofFn_eq_map, List.ofFn_eq_map, ← List.map_reverse,
    List.finRange_reverse, List.map_map]
  rfl

end Site

variable (config : Config) (lines : List Instruction)

/-- Row `i` jumps back to row `j`, and no row between them has the address of row `j`. -/
def JumpsBack (i j : Fin lines.length) : Prop :=
  j < i ∧ lines[i].target? config = some lines[j].address ∧ lines[j].address < lines[i].address ∧
    ∀ k, j < k → k < i → lines[k].address ≠ lines[j].address

/-- Row `i` jumps ahead to row `j`, and no row between them has the address of row `j`. -/
def JumpsAhead (i j : Fin lines.length) : Prop :=
  i < j ∧ lines[i].target? config = some lines[j].address ∧ lines[i].address < lines[j].address ∧
    ∀ k, i < k → k < j → lines[k].address ≠ lines[j].address

/-- Row `j` jumps to itself, and such jumps are kept. -/
def LoopKept (j : Fin lines.length) : Prop :=
  lines[j].target? config = some lines[j].address ∧ config.loops = .marker

/-- An edge of the routine goes from row `i` to row `j`. -/
def Leads (i j : Fin lines.length) : Prop :=
  JumpsBack config lines i j ∨ JumpsAhead config lines i j ∨ (i = j ∧ LoopKept config lines j)

instance (i j : Fin lines.length) : Decidable (JumpsBack config lines i j) :=
  inferInstanceAs (Decidable (_ ∧ _ ∧ _ ∧ _))

instance (i j : Fin lines.length) : Decidable (JumpsAhead config lines i j) :=
  inferInstanceAs (Decidable (_ ∧ _ ∧ _ ∧ _))

instance (j : Fin lines.length) : Decidable (LoopKept config lines j) :=
  inferInstanceAs (Decidable (_ ∧ _))

/-- The last row is the first site of the backward pass. -/
theorem meets_backward_iff (i j : Fin lines.length) :
    Pass.backward.Meets (fun k => Site.ofRow config lines k.rev) i.rev j.rev ↔
      JumpsBack config lines i j := by
  have hbetween :
      (∀ k, i.rev < k → k < j.rev → lines[k.rev].address ≠ lines[j.rev.rev].address) ↔
        ∀ k, j < k → k < i → lines[k].address ≠ lines[j].address := by
    rw [Fin.rev_surjective.forall]
    simp only [Fin.rev_lt_rev, Fin.rev_rev]
    exact forall_congr' fun k => imp.swap
  simp only [Pass.Meets, JumpsBack, Fin.rev_lt_rev, Pass.Ahead, Site.ofRow, hbetween]
  simp only [Fin.rev_rev]

theorem meets_forward_iff (i j : Fin lines.length) :
    Pass.forward.Meets (Site.ofRow config lines) i j ↔ JumpsAhead config lines i j :=
  Iff.rfl

theorem backward_loop_edges (j : Fin lines.length) :
    (Pass.backward.loop config.loops (Site.ofRow config lines j)).filterMap Finding.edge? =
      if LoopKept config lines j then [.between j j] else [] := by
  by_cases h : lines[j].target? config = some lines[j].address
  · cases hp : config.loops with
    | marker => simp [Pass.loop, Site.ofRow, LoopKept, h, hp, Finding.edge?, -Fin.getElem_fin]
    | drop => simp [Pass.loop, Site.ofRow, LoopKept, h, hp, Finding.edge?, -Fin.getElem_fin]
  · simp [Pass.loop, Site.ofRow, LoopKept, h, -Fin.getElem_fin]

/-- If the addresses increase, a jump leads to the row of its target, wherever that is. -/
theorem leads_iff_of_increasing
    (haddress : ∀ i j : Fin lines.length, i < j → lines[i].address < lines[j].address)
    (hloops : config.loops = .marker) (i j : Fin lines.length) :
    Leads config lines i j ↔ lines[i].target? config = some lines[j].address := by
  constructor
  · rintro (h | h | ⟨rfl, h⟩)
    · exact h.2.1
    · exact h.2.1
    · exact h.1
  · intro h
    have hdistinct (a b : Fin lines.length) (hab : a < b) : lines[a].address ≠ lines[b].address :=
      UInt64.ne_of_lt (haddress a b hab)
    rcases lt_trichotomy i j with hij | rfl | hji
    · exact .inr (.inl ⟨hij, h, haddress i j hij, fun k _ hkj => hdistinct k j hkj⟩)
    · exact .inr (.inr ⟨rfl, h, hloops⟩)
    · exact .inl ⟨hji, h, haddress j i hji, fun k hjk _ => (hdistinct j k hjk).symm⟩

namespace Edge

/-- The edges to row `j` from the rows below it, lowest row first, and then its own loop. -/
def upTo (j : Fin lines.length) : List Edge :=
  (((List.finRange lines.length).reverse.filter (JumpsBack config lines · j)).map
      fun i : Fin lines.length => .between i j) ++
    if LoopKept config lines j then [.between j j] else []

/-- The edges to row `j` from the rows above it, highest row first. -/
def downTo (j : Fin lines.length) : List Edge :=
  ((List.finRange lines.length).filter (JumpsAhead config lines · j)).map
    fun i : Fin lines.length => .between i j

theorem backward_pass_edges :
    (Pass.backward.run config.loops [] (Site.ofLines config lines).reverse).filterMap
        Finding.edge? =
      (List.finRange lines.length).reverse.flatMap (upTo config lines) := by
  rw [Site.reverse_ofLines, Pass.run_edges, List.finRange_reverse, List.flatMap_map]
  congr 1
  funext j
  have hmeets : (fun i : Fin lines.length => decide (JumpsBack config lines i.rev j.rev)) =
      fun i => decide (Pass.backward.Meets (fun k => Site.ofRow config lines k.rev) i j) := by
    funext i
    rw [decide_eq_decide, ← meets_backward_iff, Fin.rev_rev, Fin.rev_rev]
  rw [backward_loop_edges, upTo, List.finRange_reverse, List.filter_map, List.map_map]
  simp only [Pass.taken_nil, List.map_nil, List.nil_append, Function.comp_def, hmeets, Site.ofRow]

theorem forward_pass_edges :
    (Pass.forward.run config.loops [] (Site.ofLines config lines)).filterMap Finding.edge? =
      (List.finRange lines.length).flatMap (downTo config lines) := by
  rw [Site.ofLines_eq_ofFn, Pass.run_edges]
  congr 1
  funext j
  simp [Pass.loop, meets_forward_iff, Site.ofRow, downTo]

/-- The edges of a routine in their order: one sweep over the targets from the last row to the
first, then one from the first row to the last. -/
theorem ofLines_eq_sweeps :
    ofLines config lines =
      (List.finRange lines.length).reverse.flatMap (upTo config lines) ++
        (List.finRange lines.length).flatMap (downTo config lines) := by
  rw [ofLines, Finding.ofLines, List.filterMap_append, backward_pass_edges, forward_pass_edges]

theorem mem_upTo_iff {e : Edge} {j : Fin lines.length} :
    e ∈ upTo config lines j ↔
      (∃ i : Fin lines.length, JumpsBack config lines i j ∧ e = .between i j) ∨
        (LoopKept config lines j ∧ e = .between j j) := by
  by_cases h : LoopKept config lines j <;> simp [upTo, h, eq_comm]

theorem mem_downTo_iff {e : Edge} {j : Fin lines.length} :
    e ∈ downTo config lines j ↔
      ∃ i : Fin lines.length, JumpsAhead config lines i j ∧ e = .between i j := by
  simp [downTo, eq_comm]

theorem mem_ofLines_iff {e : Edge} :
    e ∈ ofLines config lines ↔
      ∃ i j : Fin lines.length, Leads config lines i j ∧ e = .between i j := by
  rw [ofLines, Finding.ofLines, List.filterMap_append, backward_pass_edges, forward_pass_edges]
  simp only [List.mem_append, List.mem_flatMap, List.mem_reverse, List.mem_finRange, true_and,
    mem_upTo_iff, mem_downTo_iff]
  constructor
  · rintro (⟨j, ⟨i, h, rfl⟩ | ⟨h, rfl⟩⟩ | ⟨j, i, h, rfl⟩)
    · exact ⟨i, j, .inl h, rfl⟩
    · exact ⟨j, j, .inr (.inr ⟨rfl, h⟩), rfl⟩
    · exact ⟨i, j, .inr (.inl h), rfl⟩
  · rintro ⟨i, j, h | h | ⟨rfl, h⟩, rfl⟩
    · exact .inl ⟨j, .inl ⟨i, h, rfl⟩⟩
    · exact .inr ⟨j, i, h, rfl⟩
    · exact .inl ⟨i, .inr ⟨h, rfl⟩⟩

theorem between_injective (j : ℕ) : Function.Injective fun i => between i j :=
  fun _ _ h => congrArg source h

theorem nodup_upTo (j : Fin lines.length) : (upTo config lines j).Nodup := by
  apply List.Nodup.append
  · apply List.Nodup.map ((between_injective j).comp Fin.val_injective)
    exact (List.nodup_reverse.mpr (List.nodup_finRange _)).filter _
  · by_cases h : LoopKept config lines j <;> simp [h]
  · intro e hback hloop
    obtain ⟨i, hi, rfl⟩ := List.mem_map.mp hback
    have hji : j < i := (of_decide_eq_true (List.mem_filter.mp hi).2).1
    by_cases h : LoopKept config lines j
    · have hij : (i : ℕ) = j := congrArg source (by simpa [h] using hloop)
      omega
    · simp [h] at hloop

theorem nodup_downTo (j : Fin lines.length) : (downTo config lines j).Nodup := by
  apply List.Nodup.map ((between_injective j).comp Fin.val_injective)
  exact (List.nodup_finRange _).filter _

theorem target_of_mem_upTo {e : Edge} {j : Fin lines.length} (h : e ∈ upTo config lines j) :
    e.target = j := by
  rcases (mem_upTo_iff config lines).mp h with ⟨i, -, rfl⟩ | ⟨-, rfl⟩ <;> rfl

theorem target_of_mem_downTo {e : Edge} {j : Fin lines.length} (h : e ∈ downTo config lines j) :
    e.target = j := by
  obtain ⟨i, -, rfl⟩ := (mem_downTo_iff config lines).mp h
  rfl

/-- A sweep over different targets lists no edge twice if no target does. -/
theorem nodup_sweep {n : ℕ} {targets : List (Fin n)} {edges : Fin n → List Edge}
    (htargets : targets.Nodup) (hedges : ∀ j, (edges j).Nodup)
    (htarget : ∀ j, ∀ e ∈ edges j, e.target = j) : (targets.flatMap edges).Nodup := by
  rw [List.nodup_flatMap]
  refine ⟨fun j _ => hedges j, htargets.imp fun hne => ?_⟩
  intro e hj hk
  exact hne (Fin.ext ((htarget _ e hj).symm.trans (htarget _ e hk)))

theorem nodup_ofLines : (ofLines config lines).Nodup := by
  rw [ofLines, Finding.ofLines, List.filterMap_append, backward_pass_edges, forward_pass_edges]
  apply List.Nodup.append
  · exact nodup_sweep (List.nodup_reverse.mpr (List.nodup_finRange _)) (nodup_upTo config lines)
      fun j e => target_of_mem_upTo config lines
  · exact nodup_sweep (List.nodup_finRange _) (nodup_downTo config lines)
      fun j e => target_of_mem_downTo config lines
  · -- an edge of the first sweep does not point downward
    intro e hup hdown
    obtain ⟨j, -, hj⟩ := List.mem_flatMap.mp hup
    obtain ⟨k, -, hk⟩ := List.mem_flatMap.mp hdown
    obtain ⟨i, hik, rfl⟩ := (mem_downTo_iff config lines).mp hk
    have hlt : (i : ℕ) < k := hik.1
    rcases (mem_upTo_iff config lines).mp hj with ⟨i', hback, he⟩ | ⟨-, he⟩
    · have hs : (i : ℕ) = i' := congrArg source he
      have ht : (k : ℕ) = j := congrArg target he
      have hlt' : (j : ℕ) < i' := hback.1
      omega
    · have hs : (i : ℕ) = j := congrArg source he
      have ht : (k : ℕ) = j := congrArg target he
      omega

end Edge

end JumpArrows
