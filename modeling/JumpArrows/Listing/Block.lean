import JumpArrows.Listing.Record
import JumpArrows.Listing.Instruction

/-! # Blocks

A listing falls into routines and lines that are passed through. A header and the instructions
right behind it are a routine; so is a run of instructions that no header precedes. Every other
line is passed through. The listing is taken from its end, so that the instructions at the front of
what is done already are those that the next header will claim. -/

namespace JumpArrows

/-- A disassembled routine. `header` and `rows` tell the records that it comes from, `rows` in
parallel with `lines`. The address is that of the header, or else that of the first instruction. -/
structure Routine where
  label : Option String
  address : UInt64
  header : Option Nat
  lines : List Instruction
  rows : List Nat
  deriving DecidableEq, Repr

inductive Block where
  | routine (r : Routine)
  | passThrough (row : Nat)
  deriving DecidableEq, Repr

/-- The record of an instruction, as far as its routine needs it. -/
structure Entry where
  row : Nat
  address : UInt64
  text? : Option String
  deriving DecidableEq, Repr

namespace Routine

def ofEntries (label : Option String) (address : UInt64) (header : Option Nat)
    (entries : List Entry) : Routine where
  label
  address
  header
  lines := entries.mapIdx fun i e => .ofText i e.address e.text?
  rows := entries.map (·.row)

end Routine

/-- The blocks of the end of a listing, and the instructions at its front, which belong to no block
yet. -/
structure Partition where
  run : List Entry
  blocks : List Block

namespace Partition

def empty : Partition :=
  ⟨[], []⟩

/-- Makes the instructions at the front, if there are any, a routine without a header. -/
def close (p : Partition) : List Block :=
  match p.run with
  | [] => p.blocks
  | e :: es => .routine (.ofEntries none e.address none (e :: es)) :: p.blocks

def add (record : Record) (row : Nat) (p : Partition) : Partition :=
  match record.kind with
  | .instruction address => { p with run := ⟨row, address, record.text?⟩ :: p.run }
  | .header address label =>
    ⟨[], .routine (.ofEntries (some label) address (some row) p.run) :: p.blocks⟩
  | .other => ⟨[], .passThrough row :: p.close⟩

end Partition

namespace Block

def ofRecords (records : List Record) : List Block :=
  (records.zipIdx.foldr (fun r p => p.add r.1 r.2) Partition.empty).close

def routine? : Block → Option Routine
  | .routine r => some r
  | .passThrough _ => none

end Block

end JumpArrows
