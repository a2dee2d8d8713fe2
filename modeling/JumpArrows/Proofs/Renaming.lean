import JumpArrows.Layout
import JumpArrows.Proofs.Interference

/-! # Other names for rows and addresses

A pass copies the numbers of the rows, and of addresses it only asks which is the smaller and
whether two are the same. So a run over sites with other names finds what the run over the old ones
finds, under the new names, if the new addresses stand in the order of the old ones. A routine that
is moved elsewhere in memory, with all its targets, keeps its layout. -/

namespace JumpArrows

/-- The addresses of a set keep their order. -/
def Increasing (f : UInt64 → UInt64) (addresses : Set UInt64) : Prop :=
  ∀ a ∈ addresses, ∀ b ∈ addresses, a < b → f a < f b

namespace Increasing

variable {f : UInt64 → UInt64} {addresses : Set UInt64} {a b : UInt64}
  (hf : Increasing f addresses) (ha : a ∈ addresses) (hb : b ∈ addresses)

include hf ha hb

theorem eq_iff : f a = f b ↔ a = b := by
  refine ⟨fun h => ?_, congrArg f⟩
  rcases Std.lt_trichotomy a b with hlt | heq | hgt
  · exact absurd h (UInt64.ne_of_lt (hf a ha b hb hlt))
  · exact heq
  · exact absurd h.symm (UInt64.ne_of_lt (hf b hb a ha hgt))

theorem lt_iff : f a < f b ↔ a < b := by
  refine ⟨fun h => ?_, hf a ha b hb⟩
  rcases Std.lt_trichotomy a b with hlt | rfl | hgt
  · exact hlt
  · exact absurd h (UInt64.lt_irrefl _)
  · exact absurd h (UInt64.not_lt.mpr (UInt64.le_of_lt (hf b hb a ha hgt)))

end Increasing

/-! ## New names -/

section Names

variable (g : ℕ → ℕ) (f : UInt64 → UInt64)

def Site.rename (site : Site) : Site :=
  ⟨g site.row, f site.address, site.target?.map f⟩

def Waiting.rename (w : Waiting) : Waiting :=
  ⟨g w.row, f w.target⟩

def Finding.rename : Finding → Finding
  | .resolved source target => .resolved (g source) (g target)
  | .loopKept row => .loopKept (g row)
  | .loopDropped row => .loopDropped (g row)
  | .unresolved pass count => .unresolved pass count

end Names

theorem Finding.rename_id : Finding.rename id = id := by
  funext f
  cases f <;> rfl

def Site.Within (addresses : Set UInt64) (site : Site) : Prop :=
  site.address ∈ addresses ∧ ∀ target ∈ site.target?, target ∈ addresses

namespace Pass

/-- What waits behind a site are jumps that waited before it, and its own. -/
theorem target_mem_of_mem_next (pass : Pass) (a : UInt64) {queue : List Waiting} {site : Site}
    {addresses : Set UInt64} (hqueue : ∀ w ∈ queue, w.target ∈ addresses)
    (hsite : ∀ target ∈ site.target?, target ∈ addresses) :
    ∀ w ∈ queue.filter (·.target != a) ++ pass.waiting site, w.target ∈ addresses := by
  intro w hw
  rcases List.mem_append.mp hw with hw | hw
  · exact hqueue w (List.mem_of_mem_filter hw)
  · exact hsite w.target (pass.eq_of_mem_waiting hw).2

variable (pass : Pass) (policy : LoopPolicy) (g : ℕ → ℕ) {f : UInt64 → UInt64}
  {addresses : Set UInt64} (hf : Increasing f addresses)

include hf

theorem ahead_rename {a b : UInt64} (ha : a ∈ addresses) (hb : b ∈ addresses) :
    pass.Ahead (f a) (f b) ↔ pass.Ahead a b := by
  cases pass with
  | backward => exact hf.lt_iff hb ha
  | forward => exact hf.lt_iff ha hb

theorem waiting_rename {site : Site} (h : site.Within addresses) :
    pass.waiting (site.rename g f) = (pass.waiting site).map (.rename g f) := by
  cases htarget : site.target? with
  | none => simp [waiting, Site.rename, htarget]
  | some target =>
    have hnew : (site.rename g f).target? = some (f target) := by simp [Site.rename, htarget]
    have hahead : pass.Ahead (site.rename g f).address (f target) ↔
        pass.Ahead site.address target :=
      pass.ahead_rename hf h.1 (h.2 target htarget)
    rw [pass.waiting_of_target htarget, pass.waiting_of_target hnew, if_congr hahead rfl rfl]
    split_ifs <;> rfl

theorem loop_rename {site : Site} (h : site.Within addresses) :
    pass.loop policy (site.rename g f) = (pass.loop policy site).map (.rename g) := by
  cases pass with
  | forward => rfl
  | backward =>
    have hloop : (site.rename g f).target? = some (site.rename g f).address ↔
        site.target? = some site.address := by
      cases htarget : site.target? with
      | none => simp [Site.rename, htarget]
      | some target =>
        simpa [Site.rename, htarget] using hf.eq_iff (h.2 target htarget) h.1
    rw [backward_loop, backward_loop, if_congr hloop rfl rfl]
    split_ifs <;> cases policy <;> rfl

/-- The jumps that lead to an address, or those that do not, are the same under the new names. -/
theorem filter_rename {queue : List Waiting} (hqueue : ∀ w ∈ queue, w.target ∈ addresses)
    {a : UInt64} (ha : a ∈ addresses) (keep : Bool → Bool) :
    (queue.map (Waiting.rename g f)).filter (fun w => keep (w.target == f a)) =
      (queue.filter fun w => keep (w.target == a)).map (.rename g f) := by
  rw [List.filter_map]
  congr 1
  apply List.filter_congr
  intro w hw
  have htarget : (f w.target == f a) = (w.target == a) := by
    rw [Bool.eq_iff_iff, beq_iff_eq, beq_iff_eq]
    exact hf.eq_iff (hqueue w hw) ha
  exact congrArg keep htarget

/-- A pass finds under the new names what it finds under the old ones. -/
theorem run_rename {queue : List Waiting} {sites : List Site}
    (hqueue : ∀ w ∈ queue, w.target ∈ addresses) (hsites : ∀ site ∈ sites, site.Within addresses) :
    pass.run policy (queue.map (.rename g f)) (sites.map (.rename g f)) =
      (pass.run policy queue sites).map (.rename g) := by
  -- The queues stay renamings of each other. A target that no row has waits to the end, so it is of
  -- the targets in the queue, and not only of the addresses, that `f` has to keep the order.
  induction sites generalizing queue with
  | nil => cases queue <;> simp [run, Finding.rename]
  | cons site sites ih =>
    have hsite := hsites site List.mem_cons_self
    have htaken : (queue.map (Waiting.rename g f)).filter (·.target == (site.rename g f).address) =
        (queue.filter (·.target == site.address)).map (.rename g f) :=
      filter_rename g hf hqueue hsite.1 id
    have hleft : (queue.map (Waiting.rename g f)).filter (·.target != (site.rename g f).address) =
        (queue.filter (·.target != site.address)).map (.rename g f) :=
      filter_rename g hf hqueue hsite.1 not
    have hnext := pass.target_mem_of_mem_next site.address hqueue hsite.2
    have hrest := ih hnext fun s hs => hsites s (List.mem_cons_of_mem _ hs)
    rw [List.map_append, ← hleft, ← pass.waiting_rename g hf hsite] at hrest
    rw [List.map_cons, run, run, List.map_append, List.map_append, ← hrest,
      ← pass.loop_rename policy g hf hsite, htaken, List.map_map, List.map_map]
    rfl

end Pass

/-! ## Another place in memory -/

/-- The addresses that a routine names: those of its rows and those that its jumps lead to. -/
def namedAddresses (config : Config) (lines : List Instruction) : Set UInt64 :=
  {a | ∃ line ∈ lines, line.address = a ∨ line.target? config = some a}

theorem Site.within_of_mem {config : Config} {lines : List Instruction} {site : Site}
    (h : site ∈ ofLines config lines) : site.Within (namedAddresses config lines) := by
  obtain ⟨row, hrow, rfl⟩ := List.mem_mapIdx.mp h
  have hline : lines[row] ∈ lines := List.getElem_mem hrow
  exact ⟨⟨_, hline, .inl rfl⟩, fun target htarget => ⟨_, hline, .inr htarget⟩⟩

section Rebase

variable (config : Config) {lines lines' : List Instruction} {f : UInt64 → UInt64}
  (hf : Increasing f (namedAddresses config lines))
  (haddress : lines'.map (·.address) = lines.map fun line => f line.address)
  (htarget : lines'.map (·.target? config) = lines.map fun line => (line.target? config).map f)

include hf haddress htarget

/-- Whatever the passes tell of a routine, they tell of it at any other place. -/
theorem Finding.ofLines_eq_of_moved : ofLines config lines' = ofLines config lines := by
  have hsites : Site.ofLines config lines' = (Site.ofLines config lines).map (.rename id f) := by
    apply Site.ofLines_eq_map (.rename id f) (fun _ => rfl)
    · rw [haddress]
      apply List.ext_getElem <;> simp [Site.ofLines, Site.rename]
    · rw [htarget]
      apply List.ext_getElem <;> simp [Site.ofLines, Site.rename]
  -- The rows keep their numbers here, so the findings are the same, and not only renamed.
  have hrun (pass : Pass) {sites : List Site} (h : ∀ s ∈ sites, s ∈ Site.ofLines config lines) :
      pass.run config.loops [] (sites.map (.rename id f)) = pass.run config.loops [] sites := by
    have hrename := pass.run_rename config.loops id hf (List.forall_mem_nil _)
      fun s hs => Site.within_of_mem (h s hs)
    rwa [rename_id, List.map_id, List.map_nil] at hrename
  rw [ofLines, ofLines, hsites, ← List.map_reverse, hrun .forward fun _ hs => hs,
    hrun .backward fun _ hs => List.mem_reverse.mp hs]

/-- A routine that stands elsewhere in memory, so that its addresses and its targets are others but
in the same order, has the same edges and the same layout. -/
theorem Layout.ofLines_rebase :
    Edge.ofLines config lines' = Edge.ofLines config lines ∧
      ofLines config lines' = ofLines config lines := by
  have hedges : Edge.ofLines config lines' = Edge.ofLines config lines :=
    congrArg (List.filterMap Finding.edge?) (Finding.ofLines_eq_of_moved config hf haddress htarget)
  have hlength : lines'.length = lines.length := by simpa using congrArg List.length haddress
  refine ⟨hedges, ?_⟩
  rw [ofLines, ofLines, hedges, hlength]

end Rebase

/-- A place further up in memory, with more room between the rows. -/
def spreadOut (a : UInt64) : UInt64 :=
  3 * a + 0x401000

theorem toNat_spreadOut {a : UInt64} (h : a.toNat < 0x1000) :
    (spreadOut a).toNat = 3 * a.toNat + 0x401000 := by
  have hfits : 3 * a.toNat + 0x401000 < 2 ^ 64 := by omega
  simpa [spreadOut] using Nat.mod_eq_of_lt hfits

theorem increasing_spreadOut : Increasing spreadOut {a | a.toNat < 0x1000} := by
  intro a ha b hb hab
  rw [UInt64.lt_iff_toNat_lt] at hab ⊢
  rw [toNat_spreadOut ha, toNat_spreadOut hb]
  omega

/-- The target that no row has moves with the others. -/
def junctionSpreadOut : List Instruction :=
  [.ofText 0 0x401030 (some "jmp 401090"), .ofText 1 0x401060 (some "ja 401090"),
    .ofText 2 0x401090 (some "jmp 401090"), .ofText 3 0x4010c0 (some "jne 401090"),
    .ofText 4 0x4010f0 (some "jb 403fd0")]

theorem Layout.ofLines_rebase_junction :
    Increasing spreadOut (namedAddresses {} junction) ∧
      Edge.ofLines {} junctionSpreadOut = Edge.ofLines {} junction ∧
      ofLines {} junctionSpreadOut = ofLines {} junction := by
  -- The bound is told of naturals, for `decide` would try every word instead of those of the list.
  have hsmall : ∀ n ∈ (junction.map (·.address) ++ junction.filterMap (·.target? {})).map
      UInt64.toNat, n < 0x1000 := by
    decide
  have hincreasing : Increasing spreadOut (namedAddresses {} junction) := by
    have hnamed : namedAddresses {} junction ⊆ {a | a.toNat < 0x1000} := by
      rintro a ⟨line, hline, hnames⟩
      apply hsmall
      apply List.mem_map_of_mem
      rcases hnames with rfl | htarget
      · exact List.mem_append_left _ (List.mem_map_of_mem hline)
      · exact List.mem_append_right _ (List.mem_filterMap.mpr ⟨line, hline, htarget⟩)
    exact fun a ha b hb => increasing_spreadOut a (hnamed ha) b (hnamed hb)
  exact ⟨hincreasing, ofLines_rebase {} hincreasing (by decide) (by decide)⟩

end JumpArrows
