import JumpArrows.Proofs.EdgeOrder

/-! # The edge of every jump

A row has one edge at most, whatever the addresses are: the address of the target decides which
pass waits for it, and that pass takes the first row with this address that it comes to. It can
come to none, since it sees only the rows on one side. If the addresses do not decrease, the side
is the right one, and every jump to an address of the routine has its edge. -/

namespace JumpArrows

namespace Pass

variable {pass : Pass} {n : ℕ} {sites : Fin n → Site} {i j k : Fin n} {t : UInt64}

/-- A jump does not wait any longer once its target has been met. -/
theorem Meets.unique (hj : pass.Meets sites i j) (hk : pass.Meets sites i k) : j = k := by
  obtain ⟨hij, htarget, -, hbetween⟩ := hj
  obtain ⟨hik, htarget', -, hbetween'⟩ := hk
  have haddress : (sites j).address = (sites k).address :=
    Option.some_inj.mp (htarget.symm.trans htarget')
  rcases lt_trichotomy j k with hlt | heq | hgt
  · exact absurd haddress (hbetween' j hij hlt)
  · exact heq
  · exact absurd haddress.symm (hbetween k hik hgt)

/-- Of the sites behind a jump that have the address of its target, the first one is met. -/
theorem exists_meets (htarget : (sites i).target? = some t)
    (hahead : pass.Ahead (sites i).address t) (h : ∃ j, i < j ∧ (sites j).address = t) :
    ∃ j, pass.Meets sites i j := by
  obtain ⟨j, ⟨hij, rfl⟩, hfirst⟩ := wellFounded_lt.has_min {j | i < j ∧ (sites j).address = t} h
  exact ⟨j, hij, htarget, hahead, fun k hik hkj hk => hfirst k ⟨hik, hk⟩ hkj⟩

end Pass

section Row

variable {config : Config} {lines : List Instruction} {i j k : Fin lines.length} {t : UInt64}

theorem Leads.target (h : Leads config lines i j) :
    (lines.get i).target? config = some (lines.get j).address := by
  rcases h with h | h | ⟨rfl, h⟩
  · exact h.2.1
  · exact h.2.1
  · exact h.1

/-! ## The pass that a jump waits in -/

section Target

variable (htarget : (lines.get i).target? config = some t)

include htarget

theorem leads_iff_of_target_lt (h : t < (lines.get i).address) :
    Leads config lines i j ↔ JumpsBack config lines i j := by
  refine ⟨?_, .inl⟩
  rintro (hback | ⟨-, hj, hahead, -⟩ | ⟨rfl, hj, -⟩)
  · exact hback
  · grind
  · grind

theorem leads_iff_of_lt_target (h : (lines.get i).address < t) :
    Leads config lines i j ↔ JumpsAhead config lines i j := by
  refine ⟨?_, fun hahead => .inr (.inl hahead)⟩
  rintro (⟨-, hj, hback, -⟩ | hahead | ⟨rfl, hj, -⟩)
  · grind
  · exact hahead
  · grind

theorem leads_iff_of_target_eq (h : t = (lines.get i).address) :
    Leads config lines i j ↔ i = j ∧ config.loops = .marker := by
  constructor
  · rintro (⟨-, hj, hback, -⟩ | ⟨-, hj, hahead, -⟩ | ⟨rfl, -, hloops⟩)
    · grind
    · grind
    · exact ⟨rfl, hloops⟩
  · rintro ⟨rfl, hloops⟩
    exact .inr (.inr ⟨rfl, h ▸ htarget, hloops⟩)

end Target

/-- A row has one edge at most. -/
theorem Leads.unique (hj : Leads config lines i j) (hk : Leads config lines i k) : j = k := by
  have htarget := hj.target
  rcases Std.lt_trichotomy (lines.get j).address (lines.get i).address with hlt | heq | hgt
  · rw [leads_iff_of_target_lt htarget hlt, ← meets_backward_iff] at hj hk
    exact Fin.rev_injective (hj.unique hk)
  · rw [leads_iff_of_target_eq htarget heq] at hj hk
    exact hj.1.symm.trans hk.1
  · rw [leads_iff_of_lt_target htarget hgt, ← meets_forward_iff] at hj hk
    exact hj.unique hk

/-! ## Addresses that do not decrease -/

section Sorted

variable (hsorted : lines.Pairwise (·.address ≤ ·.address))
  (htarget : (lines.get i).target? config = some (lines.get j).address)

include hsorted

/-- A row with a smaller address stands above. -/
theorem lt_of_address_lt (h : (lines.get i).address < (lines.get j).address) : i < j := by
  by_contra hle
  have haddress : (lines.get j).address ≤ (lines.get i).address := by
    rcases (not_lt.mp hle).eq_or_lt with rfl | hlt
    · exact UInt64.le_refl _
    · exact List.pairwise_iff_get.mp hsorted j i hlt
  exact UInt64.not_le.mpr h haddress

include htarget

theorem exists_jumpsBack (hlt : (lines.get j).address < (lines.get i).address) :
    ∃ k, JumpsBack config lines i k := by
  have hmeets : ∃ k, Pass.backward.Meets (fun k => Site.ofRow config lines k.rev) i.rev k := by
    apply Pass.exists_meets (t := (lines.get j).address)
    · rwa [Fin.rev_rev]
    · rwa [Fin.rev_rev]
    · refine ⟨j.rev, Fin.rev_lt_rev.mpr (lt_of_address_lt hsorted hlt), ?_⟩
      rw [Fin.rev_rev]
      rfl
  obtain ⟨k, hk⟩ := hmeets
  rw [← Fin.rev_rev k, meets_backward_iff] at hk
  exact ⟨k.rev, hk⟩

theorem exists_jumpsAhead (hlt : (lines.get i).address < (lines.get j).address) :
    ∃ k, JumpsAhead config lines i k := by
  have hmeets : ∃ k, Pass.forward.Meets (Site.ofRow config lines) i k :=
    Pass.exists_meets htarget hlt ⟨j, lt_of_address_lt hsorted hlt, rfl⟩
  exact hmeets

/-- A jump to the address of some row leads to a row, if it is not a loop that is left out. -/
theorem exists_leads
    (hkept : (lines.get j).address = (lines.get i).address → config.loops = .marker) :
    ∃ k, Leads config lines i k := by
  rcases Std.lt_trichotomy (lines.get j).address (lines.get i).address with hlt | heq | hgt
  · obtain ⟨k, hk⟩ := exists_jumpsBack hsorted htarget hlt
    exact ⟨k, .inl hk⟩
  · exact ⟨i, (leads_iff_of_target_eq htarget heq).mpr ⟨rfl, hkept heq⟩⟩
  · obtain ⟨k, hk⟩ := exists_jumpsAhead hsorted htarget hgt
    exact ⟨k, .inr (.inl hk)⟩

end Sorted

end Row

/-! ## The edges of a row -/

namespace Edge

def outOf (config : Config) (lines : List Instruction) (i : Fin lines.length) : List Edge :=
  (ofLines config lines).filter (·.source = i)

variable {config : Config} {lines : List Instruction} {i j : Fin lines.length}

theorem mem_outOf_iff {e : Edge} :
    e ∈ outOf config lines i ↔
      ∃ j : Fin lines.length, Leads config lines i j ∧ e = .between i j := by
  simp only [outOf, List.mem_filter, mem_ofLines_iff, decide_eq_true_eq]
  constructor
  · rintro ⟨⟨i', j, h, rfl⟩, hsource⟩
    obtain rfl : i' = i := Fin.ext hsource
    exact ⟨j, h, rfl⟩
  · rintro ⟨j, h, rfl⟩
    exact ⟨⟨i, j, h, rfl⟩, rfl⟩

theorem outOf_eq_nil (h : ∀ j, ¬ Leads config lines i j) : outOf config lines i = [] := by
  apply List.eq_nil_iff_forall_not_mem.mpr
  intro e he
  obtain ⟨j, hj, -⟩ := mem_outOf_iff.mp he
  exact h j hj

theorem outOf_eq_singleton (h : Leads config lines i j) :
    outOf config lines i = [.between i j] := by
  apply List.perm_singleton.mp
  apply (List.perm_ext_iff_of_nodup ((nodup_ofLines config lines).filter _)
    (List.nodup_singleton _)).mpr
  intro e
  rw [← outOf, mem_outOf_iff, List.mem_singleton]
  constructor
  · rintro ⟨k, hk, rfl⟩
    rw [h.unique hk]
  · rintro rfl
    exact ⟨j, h, rfl⟩

/-- If the addresses of a routine do not decrease, no jump into it is lost: a row that jumps to the
address of some row has one edge, to a row with this address, unless it is a loop that is left out.
All other rows have none. -/
theorem outOf_of_sorted (config : Config) (lines : List Instruction)
    (hsorted : lines.Pairwise (·.address ≤ ·.address))
    (i : Fin lines.length) :
    (∀ t, (lines.get i).target? config = some t → (∃ line ∈ lines, line.address = t) →
        ¬ (t = (lines.get i).address ∧ config.loops = .drop) →
        ∃ j : Fin lines.length, (lines.get j).address = t ∧ outOf config lines i = [.between i j]) ∧
      ((lines.get i).target? config = some (lines.get i).address → config.loops = .drop →
        outOf config lines i = []) ∧
      (∀ t, (lines.get i).target? config = some t → (∀ line ∈ lines, line.address ≠ t) →
        outOf config lines i = []) ∧
      ((lines.get i).target? config = none → outOf config lines i = []) := by
  refine ⟨?_, ?_, ?_, ?_⟩
  · rintro t htarget ⟨line, hline, rfl⟩ hkept
    obtain ⟨j, rfl⟩ := List.mem_iff_get.mp hline
    obtain ⟨k, hk⟩ := exists_leads hsorted htarget fun heq => by
      cases hloops : config.loops with
      | marker => rfl
      | drop => exact absurd ⟨heq, hloops⟩ hkept
    exact ⟨k, Option.some_inj.mp (hk.target.symm.trans htarget), outOf_eq_singleton hk⟩
  · intro htarget hdrop
    apply outOf_eq_nil
    intro j hj
    rw [leads_iff_of_target_eq htarget rfl, hdrop] at hj
    cases hj.2
  · intro t htarget habsent
    apply outOf_eq_nil
    intro j hj
    exact habsent _ (List.getElem_mem j.isLt) (Option.some_inj.mp (hj.target.symm.trans htarget))
  · intro hnone
    apply outOf_eq_nil
    intro j hj
    rw [hj.target] at hnone
    cases hnone

def twins : List Instruction :=
  [.ofText 0 0x10 (some "jmp 20"), .ofText 1 0x20 (some "jmp 20"), .ofText 2 0x20 none,
    .ofText 3 0x30 (some "jne 20,%rax")]

theorem outOf_of_sorted_twins :
    twins.Pairwise (·.address ≤ ·.address) ∧
      (∃ j : Fin twins.length, (twins.get j).address = 0x20 ∧
        outOf {} twins (0 : Fin 4) = [.between 0 j]) ∧
      (∃ j : Fin twins.length, (twins.get j).address = 0x20 ∧
        outOf {} twins (3 : Fin 4) = [.between 3 j]) ∧
      outOf { loops := .drop } twins (1 : Fin 4) = [] ∧
      outOf {} twins (2 : Fin 4) = [] := by
  have hsorted : twins.Pairwise (·.address ≤ ·.address) := by decide
  refine ⟨hsorted, ?_, ?_, ?_, ?_⟩
  · exact (outOf_of_sorted {} twins hsorted (0 : Fin 4)).1 0x20 (by decide) (by decide) (by decide)
  · exact (outOf_of_sorted {} twins hsorted (3 : Fin 4)).1 0x20 (by decide) (by decide) (by decide)
  · exact (outOf_of_sorted { loops := .drop } twins hsorted (1 : Fin 4)).2.1 (by decide) rfl
  · exact (outOf_of_sorted {} twins hsorted (2 : Fin 4)).2.2.2 (by decide)

/-- A target with a smaller address is missed if it stands below. -/
example :
    ofLines {} [.ofText 0 0x20 (some "jmp 10"), .ofText 1 0x10 (some "ret")] = [] := by
  decide

end Edge

end JumpArrows
