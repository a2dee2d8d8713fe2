import JumpArrows.Trace.Report
import JumpArrows.Proofs.EdgeOrder

/-! # What becomes of every jump

A pass neither loses nor doubles a jump: those that waited before it and those that it comes across
are resolved, or still wait at its end. Of the two passes and the loops, just one is in charge of
any given jump. So the report of a routine, with the edges of the loops that are kept, accounts for
all its jumps. -/

namespace JumpArrows

namespace Event

/-- The number of jumps that the given pass leaves, if this is the event that tells it. -/
def leaving? (pass : Pass) : Event → Option ℕ
  | .unresolved p count => if p = pass then some count else none
  | _ => none

/-- The number of jumps that leave a routine by the given pass, as its report tells it. -/
def leaving (pass : Pass) (report : List Event) : ℕ :=
  (report.findSome? (leaving? pass)).getD 0

end Event

namespace Finding

def isResolved : Finding → Bool
  | .resolved .. => true
  | _ => false

def isKept : Finding → Bool
  | .loopKept _ => true
  | _ => false

def isDropped : Finding → Bool
  | .loopDropped _ => true
  | _ => false

/-- The number of jumps that still wait at the end of the given pass. -/
def unmet? (pass : Pass) (f : Finding) : Option ℕ :=
  f.event?.bind (Event.leaving? pass)

def ofLoop : LoopPolicy → ℕ → Finding
  | .marker, row => .loopKept row
  | .drop, row => .loopDropped row

def isLoop : LoopPolicy → Finding → Bool
  | .marker => isKept
  | .drop => isDropped

end Finding

open Finding

theorem Edge.isLoop_between (source target : ℕ) :
    (between source target).isLoop = true ↔ source = target := by
  rw [isLoop, between, Direction.between, beq_iff_eq]
  split_ifs with hlt hgt
  · simp [hlt.ne]
  · simp [hgt.ne']
  · exact iff_of_true rfl (by omega)

/-! ## One pass -/

namespace Pass

variable (pass : Pass) (policy : LoopPolicy) (queue : List Waiting) (sites : List Site)

theorem backward_loop (site : Site) :
    backward.loop policy site =
      if site.target? = some site.address then [ofLoop policy site.row] else [] := by
  cases policy <;> rfl

theorem eq_ofLoop_of_mem_loop {site : Site} {f : Finding} (h : f ∈ pass.loop policy site) :
    f = ofLoop policy site.row := by
  cases pass with
  | forward => cases h
  | backward =>
    rw [backward_loop] at h
    split_ifs at h
    · exact List.mem_singleton.mp h
    · cases h

/-- The jumps that a site takes out of the queue are resolved, and nothing else is there. -/
theorem countP_isResolved_run_cons (site : Site) :
    (pass.run policy queue (site :: sites)).countP isResolved =
      (queue.filter (·.target == site.address)).length +
        (pass.run policy (queue.filter (·.target != site.address) ++ pass.waiting site)
          sites).countP isResolved := by
  have htaken : ((queue.filter (·.target == site.address)).map
      fun w => Finding.resolved w.row site.row).countP isResolved =
        (queue.filter (·.target == site.address)).length := by
    rw [List.countP_map]
    exact List.countP_eq_length.mpr fun _ _ => rfl
  have hloop : (pass.loop policy site).countP isResolved = 0 := by
    rw [List.countP_eq_zero]
    intro f hf
    rw [pass.eq_ofLoop_of_mem_loop policy hf]
    cases policy <;> simp [ofLoop, isResolved]
  rw [run, List.countP_append, List.countP_append, htaken, hloop, Nat.add_zero]

/-- Jumps that still wait are told of at the end only. -/
theorem filterMap_unmet?_run_cons (p : Pass) (site : Site) :
    (pass.run policy queue (site :: sites)).filterMap (unmet? p) =
      (pass.run policy (queue.filter (·.target != site.address) ++ pass.waiting site)
        sites).filterMap (unmet? p) := by
  have hloop : (pass.loop policy site).filterMap (unmet? p) = [] := by
    rw [List.filterMap_eq_nil_iff]
    intro f hf
    rw [pass.eq_ofLoop_of_mem_loop policy hf]
    cases policy <;> rfl
  rw [run, List.filterMap_append, List.filterMap_append, hloop, List.filterMap_map]
  simp [Function.comp_def, unmet?, event?, Event.leaving?]

/-- No jump is lost or doubled on the way through a pass: those that wait before it and those that
it comes across are resolved, or wait at its end. -/
theorem resolved_add_unmet :
    (pass.run policy queue sites).countP isResolved +
        ((pass.run policy queue sites).filterMap (unmet? pass)).sum =
      queue.length + (sites.map fun site => (pass.waiting site).length).sum := by
  induction sites generalizing queue with
  | nil => cases queue <;> simp [run, isResolved, unmet?, event?, Event.leaving?]
  | cons site sites ih =>
    have hqueue : queue.length = (queue.filter (·.target == site.address)).length +
        (queue.filter (·.target != site.address)).length :=
      List.length_eq_length_filter_add _
    have hrest := ih (queue.filter (·.target != site.address) ++ pass.waiting site)
    rw [List.length_append] at hrest
    rw [filterMap_unmet?_run_cons, countP_isResolved_run_cons, List.map_cons, List.sum_cons]
    omega

/-- A pass tells once at most what is left, and only of itself. -/
theorem length_unmet?_le (p : Pass) :
    ((pass.run policy queue sites).filterMap (unmet? p)).length ≤ if pass = p then 1 else 0 := by
  induction sites generalizing queue with
  | nil =>
    rw [run]
    by_cases hqueue : queue.isEmpty <;> by_cases hp : pass = p <;>
      simp [hqueue, hp, unmet?, event?, Event.leaving?]
  | cons site sites ih =>
    rw [filterMap_unmet?_run_cons]
    exact ih _

theorem unmet?_of_ne {p : Pass} (h : pass ≠ p) :
    (pass.run policy queue sites).filterMap (unmet? p) = [] := by
  have hlength := pass.length_unmet?_le policy queue sites p
  rw [if_neg h] at hlength
  exact List.eq_nil_of_length_eq_zero (Nat.le_zero.mp hlength)

/-- What is found of loops is found site by site. -/
theorem countP_loops {p : Finding → Bool}
    (hresolved : ∀ source target, p (.resolved source target) = false)
    (hunresolved : ∀ q count, p (.unresolved q count) = false) :
    (pass.run policy queue sites).countP p =
      (sites.map fun site => (pass.loop policy site).countP p).sum := by
  induction sites generalizing queue with
  | nil => cases queue <;> simp [run, hunresolved]
  | cons site sites ih =>
    have htaken : ((queue.filter (·.target == site.address)).map
        fun w => Finding.resolved w.row site.row).countP p = 0 := by
      simp [List.countP_eq_zero, hresolved]
    rw [run, List.countP_append, List.countP_append, htaken, ih, List.map_cons, List.sum_cons,
      Nat.zero_add]

/-- A jump waits under its own row, for its own target. -/
theorem eq_of_mem_waiting {site : Site} {w : Waiting} (h : w ∈ pass.waiting site) :
    w.row = site.row ∧ site.target? = some w.target := by
  cases htarget : site.target? with
  | none => simp [waiting, htarget] at h
  | some target =>
    rw [pass.waiting_of_target htarget] at h
    split_ifs at h
    · rw [List.mem_singleton.mp h]
      exact ⟨rfl, rfl⟩
    · cases h

/-- A jump that waits does not lead to a row that it waits on. -/
theorem source_ne_target (hrows : (sites.map Site.row).Nodup)
    (hqueue : ∀ w ∈ queue, w.row ∉ sites.map Site.row) {source target : ℕ}
    (h : .resolved source target ∈ pass.run policy queue sites) : source ≠ target := by
  induction sites generalizing queue with
  | nil => by_cases hq : queue.isEmpty <;> simp [run, hq] at h
  | cons site sites ih =>
    rw [List.map_cons, List.nodup_cons] at hrows
    rw [run, List.mem_append, List.mem_append] at h
    rcases h with (h | h) | h
    · obtain ⟨w, hw, heq⟩ := List.mem_map.mp h
      obtain ⟨rfl, rfl⟩ := Finding.resolved.inj heq
      have hrow := hqueue w (List.mem_of_mem_filter hw)
      rw [List.map_cons] at hrow
      exact List.ne_of_not_mem_cons hrow
    · have heq := pass.eq_ofLoop_of_mem_loop policy h
      cases policy <;> cases heq
    · refine ih _ hrows.2 (fun w hw => ?_) h
      rcases List.mem_append.mp hw with hw | hw
      · have hrow := hqueue w (List.mem_of_mem_filter hw)
        rw [List.map_cons] at hrow
        exact List.not_mem_of_not_mem_cons hrow
      · rw [(pass.eq_of_mem_waiting hw).1]
        exact hrows.1

/-! ## Both passes -/

/-- A jump waits in one of the passes, unless it is a loop. -/
theorem in_charge (site : Site) :
    (backward.waiting site).length + (forward.waiting site).length +
        (backward.loop policy site).length =
      if site.target?.isSome then 1 else 0 := by
  cases htarget : site.target? with
  | none => simp [waiting, backward_loop, htarget]
  | some target =>
    rw [waiting_of_target _ htarget, waiting_of_target _ htarget, backward_loop, htarget]
    simp only [Ahead, Option.some.injEq, Option.isSome_some, if_true]
    rcases Std.lt_trichotomy target site.address with hlt | heq | hgt
    · simp [hlt, UInt64.ne_of_lt hlt, UInt64.not_lt.mpr (UInt64.le_of_lt hlt)]
    · simp [heq]
    · simp [hgt, (UInt64.ne_of_lt hgt).symm, UInt64.not_lt.mpr (UInt64.le_of_lt hgt)]

theorem sum_in_charge :
    (sites.map fun site => (backward.waiting site).length).sum +
        (sites.map fun site => (forward.waiting site).length).sum +
        (sites.map fun site => (backward.loop policy site).length).sum =
      sites.countP (·.target?.isSome) := by
  induction sites with
  | nil => rfl
  | cons site sites ih =>
    have hsite := in_charge policy site
    simp only [List.map_cons, List.sum_cons, List.countP_cons]
    omega

end Pass

namespace Site

variable (config : Config) (lines : List Instruction)

theorem rows_ofLines : (ofLines config lines).map row = List.range lines.length := by
  apply List.ext_getElem <;> simp [ofLines]

theorem targets_ofLines :
    (ofLines config lines).map target? = lines.map (·.target? config) := by
  apply List.ext_getElem <;> simp [ofLines]

end Site

namespace Finding

section Views

variable (findings : List Finding)

theorem length_edges :
    (findings.filterMap edge?).length = findings.countP isResolved + findings.countP isKept := by
  rw [List.length_filterMap_eq_countP]
  induction findings with
  | nil => rfl
  | cons f findings ih =>
    simp only [List.countP_cons, ih]
    cases f <;> simp only [edge?, isResolved, isKept, Option.isSome] <;> simp <;> omega

variable {findings}

/-- The edges of loops are those of the loops that are kept. -/
theorem countP_isLoop_edges (h : ∀ source target, .resolved source target ∈ findings →
    source ≠ target) : (findings.filterMap edge?).countP Edge.isLoop = findings.countP isKept := by
  rw [List.countP_filterMap]
  apply List.countP_congr
  intro f hf
  cases f with
  | resolved source target =>
    have hne := h source target hf
    simp [edge?, isKept, Edge.isLoop_between, hne]
  | loopKept row => simp [edge?, isKept, Edge.isLoop_between]
  | loopDropped row => simp [edge?, isKept]
  | unresolved pass count => simp [edge?, isKept]

theorem countP_event {p : Event → Bool} {q : Finding → Bool}
    (h : ∀ f, (f.event?.map p).getD false = q f) :
    (findings.filterMap event?).countP p = findings.countP q := by
  rw [List.countP_filterMap]
  exact List.countP_congr fun f _ => by rw [h]

theorem countP_resolved_event :
    (findings.filterMap event?).countP (·.message == "resolved jump") =
      findings.countP isResolved := by
  apply countP_event
  intro f
  cases f <;> rfl

theorem countP_dropped_event :
    (findings.filterMap event?).countP (·.message == "dropping self loop") =
      findings.countP isDropped := by
  apply countP_event
  intro f
  cases f <;> rfl

end Views

/-! ## A routine -/

section Routine

variable (config : Config) (lines : List Instruction)

theorem source_ne_target {source target : ℕ} (h : .resolved source target ∈ ofLines config lines) :
    source ≠ target := by
  have hrows : ((Site.ofLines config lines).map Site.row).Nodup := by
    rw [Site.rows_ofLines]
    exact List.nodup_range
  rcases List.mem_append.mp h with h | h
  · refine Pass.source_ne_target _ _ _ _ ?_ (by simp) h
    rw [List.map_reverse]
    exact List.nodup_reverse.mpr hrows
  · exact Pass.source_ne_target _ _ _ _ hrows (by simp) h

/-- Loops are up to the backward pass. -/
theorem countP_loops {p : Finding → Bool}
    (hresolved : ∀ source target, p (.resolved source target) = false)
    (hunresolved : ∀ pass count, p (.unresolved pass count) = false) :
    (ofLines config lines).countP p =
      ((Site.ofLines config lines).map fun site =>
        (Pass.backward.loop config.loops site).countP p).sum := by
  rw [ofLines, List.countP_append, Pass.countP_loops _ _ _ _ hresolved hunresolved,
    Pass.countP_loops _ _ _ _ hresolved hunresolved, List.map_reverse, List.sum_reverse]
  simp [Pass.loop]

theorem countP_isLoop :
    (ofLines config lines).countP (isLoop config.loops) =
      ((Site.ofLines config lines).map fun site =>
        (Pass.backward.loop config.loops site).length).sum := by
  have hloop (site : Site) : (Pass.backward.loop config.loops site).countP (isLoop config.loops) =
      (Pass.backward.loop config.loops site).length := by
    rw [List.countP_eq_length]
    intro f hf
    rw [Pass.eq_ofLoop_of_mem_loop _ _ hf]
    cases config.loops <;> rfl
  rw [countP_loops]
  · simp only [hloop]
  · cases config.loops <;> simp [isLoop, isKept, isDropped]
  · cases config.loops <;> simp [isLoop, isKept, isDropped]

/-- A loop is kept only if the policy says so. -/
theorem countP_isKept_of_drop (h : config.loops = .drop) :
    (ofLines config lines).countP isKept = 0 := by
  rw [countP_loops _ _ (fun _ _ => rfl) (fun _ _ => rfl), List.sum_eq_zero]
  simp only [List.mem_map]
  rintro _ ⟨site, -, rfl⟩
  rw [List.countP_eq_zero]
  intro f hf
  rw [Pass.eq_ofLoop_of_mem_loop _ _ hf, h]
  simp [ofLoop, isKept]

/-- Every jump of a routine is resolved, a loop, or left waiting by the pass in charge of it. -/
theorem countP_jumps :
    (ofLines config lines).countP isResolved +
        (ofLines config lines).countP (isLoop config.loops) +
        ((ofLines config lines).filterMap (unmet? .backward)).sum +
        ((ofLines config lines).filterMap (unmet? .forward)).sum =
      lines.countP fun line => (line.target? config).isSome := by
  have hjumps : lines.countP (fun line => (line.target? config).isSome) =
      (Site.ofLines config lines).countP (·.target?.isSome) := by
    rw [← Function.comp_def Option.isSome, ← Function.comp_def Option.isSome, ← List.countP_map,
      ← List.countP_map, Site.targets_ofLines]
  have hcharge := Pass.sum_in_charge config.loops (Site.ofLines config lines)
  have hback := Pass.backward.resolved_add_unmet config.loops [] (Site.ofLines config lines).reverse
  have hahead := Pass.forward.resolved_add_unmet config.loops [] (Site.ofLines config lines)
  rw [List.map_reverse, List.sum_reverse] at hback
  have hne : Pass.backward ≠ Pass.forward := by decide
  rw [hjumps, countP_isLoop, ofLines, List.countP_append, List.filterMap_append,
    List.filterMap_append, Pass.unmet?_of_ne _ _ _ _ hne, Pass.unmet?_of_ne _ _ _ _ hne.symm,
    List.nil_append, List.append_nil]
  simp only [List.length_nil] at hback hahead
  omega

/-- Each pass tells once at most what it leaves. -/
theorem length_unmet?_le (pass : Pass) :
    ((ofLines config lines).filterMap (unmet? pass)).length ≤ 1 := by
  have hback := Pass.length_unmet?_le .backward config.loops [] (Site.ofLines config lines).reverse
    pass
  have hahead := Pass.length_unmet?_le .forward config.loops [] (Site.ofLines config lines) pass
  rw [ofLines, List.filterMap_append, List.length_append]
  cases pass <;> simp only [reduceCtorEq, if_true, if_false] at hback hahead <;> omega

end Routine

end Finding

namespace Edge

variable (config : Config) (lines : List Instruction)

theorem filterMap_leaving? (pass : Pass) :
    (reportOfLines config lines).filterMap (Event.leaving? pass) =
      (Finding.ofLines config lines).filterMap (unmet? pass) :=
  List.filterMap_filterMap

theorem leaving_report (pass : Pass) :
    Event.leaving pass (reportOfLines config lines) =
      ((Finding.ofLines config lines).filterMap (unmet? pass)).sum := by
  have hlength := Finding.length_unmet?_le config lines pass
  rw [Event.leaving, ← List.head?_filterMap, filterMap_leaving?]
  match (Finding.ofLines config lines).filterMap (unmet? pass), hlength with
  | [], _ => rfl
  | [count], _ => simp

/-- The report of a routine, together with the edges of its loops, accounts for every jump just
once, and for every edge. No pass reports twice what it leaves. -/
theorem report_accounts :
    lines.countP (fun line => (line.target? config).isSome) =
        (reportOfLines config lines).countP (·.message == "resolved jump") +
          (match config.loops with
            | .marker => (ofLines config lines).countP isLoop
            | .drop => (reportOfLines config lines).countP (·.message == "dropping self loop")) +
          Event.leaving .backward (reportOfLines config lines) +
          Event.leaving .forward (reportOfLines config lines) ∧
      (ofLines config lines).length =
        (reportOfLines config lines).countP (·.message == "resolved jump") +
          (match config.loops with
            | .marker => (ofLines config lines).countP isLoop
            | .drop => 0) ∧
      ∀ pass, ((reportOfLines config lines).filterMap (Event.leaving? pass)).length ≤ 1 := by
  have hjumps := Finding.countP_jumps config lines
  have hloops : (ofLines config lines).countP isLoop =
      (Finding.ofLines config lines).countP isKept :=
    countP_isLoop_edges fun _ _ => Finding.source_ne_target config lines
  have hlength : (ofLines config lines).length = _ := length_edges (Finding.ofLines config lines)
  simp only [leaving_report, filterMap_leaving?, hloops, hlength]
  rw [reportOfLines, countP_resolved_event, countP_dropped_event]
  refine ⟨?_, ?_, Finding.length_unmet?_le config lines⟩
  · rw [← hjumps]
    cases config.loops <;> rfl
  · cases hpolicy : config.loops with
    | marker => rfl
    | drop => rw [Finding.countP_isKept_of_drop config lines hpolicy]

/-- Two jumps to the third row, a loop, and a jump out of the routine upward. -/
example :
    reportOfLines {}
        [.ofText 0 0x10 (some "jmp 30"), .ofText 1 0x20 (some "jmp 20"), .ofText 2 0x30 none,
          .ofText 3 0x40 (some "jne 30"), .ofText 4 0x50 (some "jmp 8")] =
      [.resolved 3 2, .unresolved .backward 1, .resolved 0 2] := by
  decide

end Edge

end JumpArrows
