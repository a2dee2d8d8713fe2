import JumpArrows.Proofs.JumpAccount

/-! # Jumps do not interfere

Jumps that wait for one target share a queue, but no jump has a say in what becomes of another. If
some of the jumps of a routine are taken away, a pass goes on with the queue that it would have had,
less the jumps that are gone. So the edges that remain are those of the jumps that remain, in the
order that they had. Loops that are left out and mnemonics that do not count as jumps are cases of
this. -/

namespace JumpArrows

/-! ## Fewer jumps -/

/-- The site, of which only a jump from one of the given rows is left. -/
def Site.restrict (rows : Set ℕ) [DecidablePred (· ∈ rows)] (site : Site) : Site :=
  { site with target? := if site.row ∈ rows then site.target? else none }

/-- What is all of one row is kept or left out as a whole. -/
theorem filter_eq_ite {α : Type} (rows : Set ℕ) [DecidablePred (· ∈ rows)] {rowOf : α → ℕ} {row : ℕ}
    {l : List α} (h : ∀ x ∈ l, rowOf x = row) :
    l.filter (rowOf · ∈ rows) = if row ∈ rows then l else [] := by
  have hcongr : l.filter (rowOf · ∈ rows) = l.filter fun _ => row ∈ rows :=
    List.filter_congr fun x hx => by rw [h x hx]
  rw [hcongr]
  split_ifs with hrow <;> simp [hrow]

namespace Pass

variable (pass : Pass) (policy : LoopPolicy) (rows : Set ℕ) [DecidablePred (· ∈ rows)]

theorem waiting_restrict (site : Site) :
    pass.waiting (site.restrict rows) = (pass.waiting site).filter (·.row ∈ rows) := by
  have hrow : ∀ w ∈ pass.waiting site, w.row = site.row :=
    fun w hw => (pass.eq_of_mem_waiting hw).1
  rw [filter_eq_ite rows hrow]
  split_ifs with hrows
  · have hsite : site.restrict rows = site := by simp [Site.restrict, hrows]
    rw [hsite]
  · simp [waiting, Site.restrict, hrows]

theorem loop_restrict (site : Site) :
    pass.loop policy (site.restrict rows) =
      if site.row ∈ rows then pass.loop policy site else [] := by
  cases pass with
  | forward => simp [loop]
  | backward =>
    rw [backward_loop, backward_loop]
    by_cases hrow : site.row ∈ rows <;> simp [Site.restrict, hrow]

theorem loop_edges_restrict (site : Site) :
    (pass.loop policy (site.restrict rows)).filterMap Finding.edge? =
      ((pass.loop policy site).filterMap Finding.edge?).filter (·.source ∈ rows) := by
  have hsource : ∀ e ∈ (pass.loop policy site).filterMap Finding.edge?, e.source = site.row := by
    intro e he
    obtain ⟨f, hf, hedge⟩ := List.mem_filterMap.mp he
    rw [pass.eq_ofLoop_of_mem_loop policy hf] at hedge
    cases policy <;> cases hedge
    rfl
  rw [filter_eq_ite rows hsource, loop_restrict]
  split_ifs <;> rfl

/-- The edges of one step: those of the jumps that are taken out of the queue, then a loop. -/
theorem run_cons_edges (queue : List Waiting) (site : Site) (sites : List Site) :
    (pass.run policy queue (site :: sites)).filterMap Finding.edge? =
      (queue.filter (·.target == site.address)).map (fun w => .between w.row site.row) ++
        (pass.loop policy site).filterMap Finding.edge? ++
        (pass.run policy (queue.filter (·.target != site.address) ++ pass.waiting site)
          sites).filterMap Finding.edge? := by
  rw [run, List.filterMap_append, List.filterMap_append, List.filterMap_map]
  simp [Function.comp_def, Finding.edge?, List.filterMap_eq_map']

/-- A pass over fewer jumps, with fewer jumps waiting, finds the edges of those that are left. -/
theorem run_restrict (queue : List Waiting) (sites : List Site) :
    (pass.run policy (queue.filter (·.row ∈ rows)) (sites.map (.restrict rows))).filterMap
        Finding.edge? =
      ((pass.run policy queue sites).filterMap Finding.edge?).filter (·.source ∈ rows) := by
  -- The invariant: the queue is the one that would be there, less the jumps that are gone. A site
  -- that jumps no more adds nothing to it, and takes out of it what is left of what it would take.
  induction sites generalizing queue with
  | nil =>
    have hnil (q : List Waiting) : (pass.run policy q []).filterMap Finding.edge? = [] := by
      cases q <;> rfl
    rw [List.map_nil, hnil, hnil, List.filter_nil]
  | cons site sites ih =>
    have hqueue : (queue.filter (·.row ∈ rows)).filter (·.target != site.address) ++
          pass.waiting (site.restrict rows) =
        (queue.filter (·.target != site.address) ++ pass.waiting site).filter (·.row ∈ rows) := by
      rw [List.filter_append, waiting_restrict, List.filter_comm]
    have htaken : ((queue.filter (·.row ∈ rows)).filter (·.target == site.address)).map
          (fun w => Edge.between w.row site.row) =
        ((queue.filter (·.target == site.address)).map
          fun w => Edge.between w.row site.row).filter (·.source ∈ rows) := by
      rw [List.filter_map, List.filter_comm]
      rfl
    rw [List.map_cons, run_cons_edges, run_cons_edges, List.filter_append, List.filter_append,
      ← ih, ← hqueue, ← loop_edges_restrict, ← htaken]
    rfl

end Pass

/-! ## What the passes see of a routine -/

namespace Site

variable {config config' : Config} {lines lines' : List Instruction}

theorem addresses_ofLines (config : Config) (lines : List Instruction) :
    (ofLines config lines).map address = lines.map (·.address) := by
  apply List.ext_getElem <;> simp [ofLines]

/-- A change of the sites is told by the addresses and the targets. -/
theorem ofLines_eq_map (change : Site → Site) (hrow : ∀ site, (change site).row = site.row)
    (haddress : lines'.map (·.address) =
      (ofLines config lines).map fun site => (change site).address)
    (htarget : lines'.map (·.target? config') =
      (ofLines config lines).map fun site => (change site).target?) :
    ofLines config' lines' = (ofLines config lines).map change := by
  rw [← addresses_ofLines config'] at haddress
  rw [← targets_ofLines] at htarget
  have hlength : (ofLines config' lines').length = (ofLines config lines).length := by
    simpa using congrArg List.length haddress
  apply List.ext_getElem
  · rw [List.length_map, hlength]
  · intro i hi hi'
    have ha := List.getElem_of_eq haddress (by simpa using hi)
    have ht := List.getElem_of_eq htarget (by simpa using hi)
    rw [List.getElem_map, List.getElem_map] at ha ht
    rw [List.getElem_map]
    ext1
    · rw [hrow]
      simp [ofLines]
    · exact ha
    · exact ht

end Site

/-! ## Loops left out -/

def Finding.dropLoop : Finding → Finding
  | .loopKept row => .loopDropped row
  | f => f

theorem Pass.run_drop (pass : Pass) (queue : List Waiting) (sites : List Site) :
    pass.run .drop queue sites = (pass.run .marker queue sites).map Finding.dropLoop := by
  induction sites generalizing queue with
  | nil => cases queue <;> rfl
  | cons site sites ih =>
    have hloop : pass.loop .drop site = (pass.loop .marker site).map Finding.dropLoop := by
      cases pass with
      | forward => rfl
      | backward =>
        rw [backward_loop, backward_loop]
        split_ifs <;> rfl
    rw [run, run, ih, hloop, List.map_append, List.map_append, List.map_map]
    rfl

/-- Without the loops that were kept, the edges are those between different rows. -/
theorem Finding.edges_dropLoop {findings : List Finding}
    (h : ∀ source target, .resolved source target ∈ findings → source ≠ target) :
    (findings.map dropLoop).filterMap edge? =
      (findings.filterMap edge?).filter fun e => e.source ≠ e.target := by
  rw [List.filterMap_map, List.filter_filterMap]
  apply List.filterMap_congr
  intro f hf
  cases f with
  | resolved source target =>
    have hne := h source target hf
    simp [dropLoop, edge?, Edge.between, Option.filter, hne]
  | loopKept row => simp [dropLoop, edge?, Edge.between, Option.filter]
  | loopDropped row => rfl
  | unresolved pass count => rfl

namespace Edge

variable (config : Config) (lines : List Instruction)

/-- The edges between the rows that are seen by both passes. -/
def ofSites (policy : LoopPolicy) (sites : List Site) : List Edge :=
  (Pass.backward.run policy [] sites.reverse ++ Pass.forward.run policy [] sites).filterMap
    Finding.edge?

theorem ofLines_eq_ofSites :
    ofLines config lines = ofSites config.loops (Site.ofLines config lines) := rfl

theorem ofSites_restrict (policy : LoopPolicy) (rows : Set ℕ) [DecidablePred (· ∈ rows)]
    (sites : List Site) :
    ofSites policy (sites.map (.restrict rows)) =
      (ofSites policy sites).filter (·.source ∈ rows) := by
  have hback := Pass.backward.run_restrict policy rows [] sites.reverse
  have hahead := Pass.forward.run_restrict policy rows [] sites
  rw [List.filter_nil] at hback hahead
  rw [ofSites, ofSites, List.filterMap_append, List.filterMap_append, List.filter_append,
    ← List.map_reverse, hback, hahead]

/-- The edges of the rows that keep their jumps. -/
theorem ofLines_of_restrict (config' : Config) {lines' : List Instruction}
    (hloops : config'.loops = config.loops) (rows : Set ℕ) [DecidablePred (· ∈ rows)]
    (haddress : lines'.map (·.address) = lines.map (·.address))
    (htarget : lines'.map (·.target? config') =
      lines.mapIdx fun row line => if row ∈ rows then line.target? config else none) :
    ofLines config' lines' = (ofLines config lines).filter (·.source ∈ rows) := by
  have hsites : Site.ofLines config' lines' =
      (Site.ofLines config lines).map (.restrict rows) := by
    apply Site.ofLines_eq_map (.restrict rows) (fun _ => rfl)
    · rw [haddress, ← Site.addresses_ofLines config]
      rfl
    · rw [htarget]
      apply List.ext_getElem <;> simp [Site.ofLines, Site.restrict]
  rw [ofLines_eq_ofSites, ofLines_eq_ofSites, hsites, ofSites_restrict, hloops]

theorem ofLines_drop (config : Config) (lines : List Instruction) :
    ofLines { config with loops := .drop } lines =
      (ofLines { config with loops := .marker } lines).filter fun e => e.source ≠ e.target := by
  have hfindings : Finding.ofLines { config with loops := .drop } lines =
      (Finding.ofLines { config with loops := .marker } lines).map Finding.dropLoop := by
    rw [Finding.ofLines, Finding.ofLines, List.map_append, ← Pass.run_drop, ← Pass.run_drop]
    rfl
  rw [ofLines, hfindings, Finding.edges_dropLoop, ofLines]
  intro source target
  exact Finding.source_ne_target _ lines

end Edge

/-! ## More mnemonics that jump -/

section Prefixes

variable {config : Config} {prefixes : List String} (h : config.jumpPrefixes ⊆ prefixes)

include h

theorem Config.isJump_of_prefixes {mnemonic : String} (hjump : config.isJump mnemonic) :
    { config with jumpPrefixes := prefixes }.isJump mnemonic := by
  obtain ⟨p, hp, hstart⟩ := List.any_eq_true.mp hjump
  exact List.any_eq_true.mpr ⟨p, h hp, hstart⟩

/-- With more jump prefixes, an instruction that jumped already keeps its target. -/
theorem Instruction.target?_of_prefixes (line : Instruction) :
    line.target? config =
      if line.mnemonic.any config.isJump then
        line.target? { config with jumpPrefixes := prefixes }
      else none := by
  rw [target?, target?]
  cases line.mnemonic with
  | none => rfl
  | some mnemonic =>
    by_cases hjump : config.isJump mnemonic
    · simp [hjump, Config.isJump_of_prefixes h hjump]
    · simp [hjump]

end Prefixes

def jumpRows (config : Config) (lines : List Instruction) : Set ℕ :=
  {row | ∃ line ∈ lines[row]?, line.mnemonic.any config.isJump}

theorem mem_jumpRows_iff (config : Config) {lines : List Instruction} {row : ℕ}
    (h : row < lines.length) :
    row ∈ jumpRows config lines ↔ lines[row].mnemonic.any config.isJump := by
  simp [jumpRows, h]

namespace Edge

/-- With more jump prefixes, edges come in between those that there were. -/
theorem sublist_ofLines_of_prefixes (config : Config) (lines : List Instruction)
    {prefixes : List String} (h : config.jumpPrefixes ⊆ prefixes) :
    (ofLines config lines).Sublist (ofLines { config with jumpPrefixes := prefixes } lines) := by
  classical
  have htarget : lines.map (·.target? config) =
      lines.mapIdx fun row line =>
        if row ∈ jumpRows config lines then
          line.target? { config with jumpPrefixes := prefixes }
        else none := by
    apply List.ext_getElem
    · simp
    · intro row hrow _
      rw [List.getElem_map, List.getElem_mapIdx, Instruction.target?_of_prefixes h]
      exact if_congr (mem_jumpRows_iff config _).symm rfl rfl
  have hedges : ofLines config lines =
      (ofLines { config with jumpPrefixes := prefixes } lines).filter
        (·.source ∈ jumpRows config lines) :=
    ofLines_of_restrict { config with jumpPrefixes := prefixes } lines config rfl _ rfl htarget
  rw [hedges]
  exact List.filter_sublist

/-- A jump has no say in what becomes of another. If the jumps of some rows are replaced by other
instructions at the same addresses, the edges that are left are those of the other rows, in their
order; if loops are left out, the edges that are left are those between different rows; and if more
mnemonics jump, edges only come in between. -/
theorem ofLines_of_fewer_jumps (config : Config) (lines : List Instruction) :
    (∀ (rows : Set ℕ) [DecidablePred (· ∈ rows)] (lines' : List Instruction),
        lines'.map (·.address) = lines.map (·.address) →
        lines'.map (·.target? config) =
          lines.mapIdx (fun row line => if row ∈ rows then line.target? config else none) →
        ofLines config lines' = (ofLines config lines).filter (·.source ∈ rows)) ∧
      (ofLines { config with loops := .drop } lines =
        (ofLines { config with loops := .marker } lines).filter fun e => e.source ≠ e.target) ∧
      ∀ prefixes, config.jumpPrefixes ⊆ prefixes →
        (ofLines config lines).Sublist
          (ofLines { config with jumpPrefixes := prefixes } lines) :=
  ⟨fun rows _ _ haddress htarget =>
      ofLines_of_restrict config lines config rfl rows haddress htarget,
    ofLines_drop config lines, fun _ h => sublist_ofLines_of_prefixes config lines h⟩

end Edge

/-- Two jumps from above and one from below to a row that jumps to itself, and a jump out of the
routine. -/
def junction : List Instruction :=
  [.ofText 0 0x10 (some "jmp 30"), .ofText 1 0x20 (some "ja 30"), .ofText 2 0x30 (some "jmp 30"),
    .ofText 3 0x40 (some "jne 30"), .ofText 4 0x50 (some "jb ff0")]

/-- The second jump and the last one are gone. -/
def junctionStilled : List Instruction :=
  [.ofText 0 0x10 (some "jmp 30"), .ofText 1 0x20 (some "nop"), .ofText 2 0x30 (some "jmp 30"),
    .ofText 3 0x40 (some "jne 30"), .ofText 4 0x50 (some "jb %rax")]

theorem Edge.ofLines_of_fewer_jumps_junction :
    junctionStilled.map (·.address) = junction.map (·.address) ∧
      junctionStilled.map (·.target? {}) =
        junction.mapIdx (fun row line =>
          if row ∈ {r | r ≠ 1 ∧ r ≠ 4} then line.target? {} else none) ∧
      ofLines {} junctionStilled =
        (ofLines {} junction).filter (·.source ∈ {r | r ≠ 1 ∧ r ≠ 4}) ∧
      ofLines { loops := .drop } junction =
        (ofLines { loops := .marker } junction).filter (fun e => e.source ≠ e.target) ∧
      (ofLines { jumpPrefixes := ["jmp"] } junction).Sublist
        (ofLines { jumpPrefixes := ["jn", "jmp"] } junction) := by
  have haddress : junctionStilled.map (·.address) = junction.map (·.address) := by decide
  have htarget : junctionStilled.map (·.target? {}) =
      junction.mapIdx fun row line =>
        if row ∈ {r | r ≠ 1 ∧ r ≠ 4} then line.target? {} else none := by
    decide
  have hprefixes : ["jmp"] ⊆ ["jn", "jmp"] := by simp
  exact ⟨haddress, htarget,
    (ofLines_of_fewer_jumps {} junction).1 {r | r ≠ 1 ∧ r ≠ 4} junctionStilled haddress htarget,
    (ofLines_of_fewer_jumps {} junction).2.1,
    (ofLines_of_fewer_jumps { jumpPrefixes := ["jmp"] } junction).2.2 _ hprefixes⟩

end JumpArrows
