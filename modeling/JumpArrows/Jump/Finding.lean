import JumpArrows.Jump.Edge
import JumpArrows.Listing.Instruction

/-! # Finding the jumps of a routine

Two passes over the rows. The backward pass runs from the last row to the first and finds the
jumps to smaller addresses and to their own row; the forward pass runs from the first row to the
last and finds those to greater addresses. A jump waits until its pass comes to a row with the
address that it leads to. What a pass comes across is written down in order, so the edges and the
account of what became of every jump are two views of one run. -/

namespace JumpArrows

inductive Pass where
  | backward
  | forward
  deriving DecidableEq, Repr

/-- A row as a pass sees it. -/
@[ext]
structure Site where
  row : Nat
  address : UInt64
  target? : Option UInt64
  deriving DecidableEq, Repr

/-- A jump whose target has not been met yet. -/
structure Waiting where
  row : Nat
  target : UInt64
  deriving DecidableEq, Repr

/-- What a pass comes across. Of the jumps that still wait at its end, only their number is told. -/
inductive Finding where
  | resolved (source target : Nat)
  | loopKept (row : Nat)
  | loopDropped (row : Nat)
  | unresolved (pass : Pass) (count : Nat)
  deriving DecidableEq, Repr

def Finding.edge? : Finding → Option Edge
  | .resolved source target => some (.between source target)
  | .loopKept row => some (.between row row)
  | .loopDropped _ | .unresolved .. => none

namespace Pass

/-- The jump of a row, if this pass has to wait for its target. -/
def waiting (pass : Pass) (site : Site) : List Waiting :=
  match site.target? with
  | none => []
  | some target =>
    let ahead := match pass with
      | .backward => decide (target < site.address)
      | .forward => decide (site.address < target)
    if ahead then [⟨site.row, target⟩] else []

/-- Jumps to their own row are up to the backward pass. -/
def loop (pass : Pass) (policy : LoopPolicy) (site : Site) : List Finding :=
  match pass with
  | .forward => []
  | .backward =>
    if site.target? = some site.address then
      match policy with
      | .marker => [.loopKept site.row]
      | .drop => [.loopDropped site.row]
    else []

/-- The findings of a pass over the rows that are left, given the jumps that wait, oldest first. -/
def run (pass : Pass) (policy : LoopPolicy) : List Waiting → List Site → List Finding
  | queue, [] => if queue.isEmpty then [] else [.unresolved pass queue.length]
  | queue, site :: sites =>
    ((queue.filter (·.target == site.address)).map fun w => .resolved w.row site.row) ++
      pass.loop policy site ++
      pass.run policy (queue.filter (·.target != site.address) ++ pass.waiting site) sites

end Pass

def Site.ofLines (config : Config) (lines : List Instruction) : List Site :=
  lines.mapIdx fun row line => ⟨row, line.address, line.target? config⟩

/-- The findings of both passes, backward first. -/
def Finding.ofLines (config : Config) (lines : List Instruction) : List Finding :=
  let sites := Site.ofLines config lines
  Pass.backward.run config.loops [] sites.reverse ++ Pass.forward.run config.loops [] sites

def Edge.ofLines (config : Config) (lines : List Instruction) : List Edge :=
  (Finding.ofLines config lines).filterMap Finding.edge?

end JumpArrows
