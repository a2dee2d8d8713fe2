import JumpArrows.Listing.Block
import Mathlib.Tactic

/-! # Records in front of a partition

What one record does to the end of a listing depends on its kind alone. From this follows what a
run of instructions does, and what lines do that are passed through. -/

namespace JumpArrows

namespace Partition

variable (p : Partition)

theorem add_instruction {record : Record} {address : UInt64}
    (h : record.kind = .instruction address) (row : ℕ) :
    p.add record row = { p with run := ⟨row, address, record.text?⟩ :: p.run } := by
  rw [add, h]

theorem add_header {record : Record} {address : UInt64} {label : String}
    (h : record.kind = .header address label) (row : ℕ) :
    p.add record row =
      ⟨[], .routine (.ofEntries (some label) address (some row) p.run) :: p.blocks⟩ := by
  rw [add, h]

theorem add_other {record : Record} (h : record.kind = .other) (row : ℕ) :
    p.add record row = ⟨[], .passThrough row :: p.close⟩ := by
  rw [add, h]

theorem close_of_run {p : Partition} (h : p.run = []) : p.close = p.blocks := by
  rw [close, h]

def routines : List Routine :=
  p.blocks.filterMap Block.routine?

/-- Puts records in front, of which the first has the given row. -/
def addAll (records : List Record) (row : ℕ) : Partition :=
  (records.zipIdx row).foldr (fun r p => p.add r.1 r.2) p

theorem addAll_cons (record : Record) (records : List Record) (row : ℕ) :
    p.addAll (record :: records) row = (p.addAll records (row + 1)).add record row := rfl

theorem addAll_append (front back : List Record) (row : ℕ) :
    p.addAll (front ++ back) row = (p.addAll back (row + front.length)).addAll front row := by
  rw [addAll, List.zipIdx_append, List.foldr_append]
  rfl

/-- Instructions in front of a run become part of it. -/
theorem addAll_instructions {n : ℕ} {record : Fin n → Record} {address : Fin n → UInt64}
    (h : ∀ i, (record i).kind = .instruction (address i)) (row : ℕ) :
    p.addAll (List.ofFn record) row =
      { p with run :=
          List.ofFn (fun i : Fin n => ⟨row + i, address i, (record i).text?⟩) ++ p.run } := by
  induction n generalizing row with
  | zero => rfl
  | succ n ih =>
    rw [List.ofFn_succ, addAll_cons, ih (fun i => h i.succ), add_instruction _ (h 0),
      List.ofFn_succ]
    have hrows (i : Fin n) : row + 1 + (i : ℕ) = row + (i.succ : ℕ) := by
      rw [Fin.val_succ]
      omega
    simp [hrows]

/-- With no instructions at the front, lines that are passed through leave the routines as they
are. -/
theorem addAll_other {record : Record} (hother : record.kind = .other) (h : p.run = [])
    (n row : ℕ) :
    (p.addAll (List.replicate n record) row).run = [] ∧
      (p.addAll (List.replicate n record) row).routines = p.routines := by
  induction n generalizing row with
  | zero => exact ⟨h, rfl⟩
  | succ n ih =>
    obtain ⟨hrun, hroutines⟩ := ih (row + 1)
    rw [List.replicate_succ, addAll_cons, add_other _ hother]
    refine ⟨rfl, ?_⟩
    rw [routines, List.filterMap_cons_none rfl, close_of_run hrun]
    exact hroutines

end Partition

end JumpArrows
