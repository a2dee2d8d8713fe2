import JumpArrows.Proofs.Blocks

/-! # Blocks partition a listing

Every record belongs to exactly one block, the blocks follow the order of the records, and each
block tells of its records what they announce themselves. A run of instructions is never cut: what
comes right behind a routine is a header or a line that is passed through. The invariant is that of
the end of a listing; one record in front keeps it, whatever its kind. -/

namespace JumpArrows

/-- The entry tells what the record of its row announces. -/
def Entry.Tells (records : List Record) (e : Entry) : Prop :=
  ∃ record, records[e.row]? = some record ∧ record.kind = .instruction e.address ∧
    e.text? = record.text?

/-- The routine tells what the records of its rows announce. Without a header it has instructions,
and the address of the first one. -/
structure Routine.Tells (records : List Record) (r : Routine) : Prop where
  header : ∀ row ∈ r.header, ∃ record label, records[row]? = some record ∧
    record.kind = .header r.address label ∧ r.label = some label
  line : ∀ (i row : ℕ), r.rows[i]? = some row → ∃ record address, records[row]? = some record ∧
    record.kind = .instruction address ∧ r.lines[i]? = some (.ofText i address record.text?)
  length : r.lines.length = r.rows.length
  index : ∀ (i : ℕ) (line : Instruction), r.lines[i]? = some line → line.index = i
  headless : r.header = none →
    r.label = none ∧ ∃ line, r.lines[0]? = some line ∧ r.address = line.address

namespace Block

def rows : Block → List ℕ
  | .routine r => r.header.toList ++ r.rows
  | .passThrough row => [row]

def Tells (records : List Record) : Block → Prop
  | .routine r => r.Tells records
  | .passThrough row => ∃ record, records[row]? = some record ∧ record.kind = .other

/-- The block is a run of instructions that no header precedes. -/
def Headless (b : Block) : Prop :=
  ∃ r ∈ b.routine?, r.header = none

/-- No run of instructions is cut in two: behind a routine stands no block without a header. -/
def Apart (b c : Block) : Prop :=
  b.routine?.isSome → ¬ c.Headless

end Block

/-! ## Routines -/

namespace Routine

variable {records : List Record} {label : Option String} {address : UInt64} {header : Option ℕ}
  {entries : List Entry}

theorem rows_ofEntries : (ofEntries label address header entries).rows = entries.map Entry.row :=
  rfl

theorem getElem?_lines_ofEntries (i : ℕ) :
    (ofEntries label address header entries).lines[i]? =
      entries[i]?.map fun e => .ofText i e.address e.text? :=
  List.getElem?_mapIdx

theorem tells_ofEntries (hentries : ∀ e ∈ entries, e.Tells records)
    (hheader : ∀ row ∈ header, ∃ record name, records[row]? = some record ∧
      record.kind = .header address name ∧ label = some name)
    (hheadless : header = none →
      label = none ∧ ∃ e, entries[0]? = some e ∧ address = e.address) :
    (ofEntries label address header entries).Tells records where
  header := hheader
  line i row hrow := by
    rw [rows_ofEntries, List.getElem?_map, Option.map_eq_some_iff] at hrow
    obtain ⟨e, he, rfl⟩ := hrow
    obtain ⟨record, hrecord, hkind, htext⟩ := hentries e (List.mem_of_getElem? he)
    refine ⟨record, e.address, hrecord, hkind, ?_⟩
    rw [getElem?_lines_ofEntries, he, Option.map_some, htext]
  length := by simp [ofEntries]
  index i line hline := by
    rw [getElem?_lines_ofEntries, Option.map_eq_some_iff] at hline
    obtain ⟨e, -, rfl⟩ := hline
    rfl
  headless hnone := by
    obtain ⟨hlabel, e, he, haddress⟩ := hheadless hnone
    refine ⟨hlabel, .ofText 0 e.address e.text?, ?_, haddress⟩
    rw [getElem?_lines_ofEntries, he, Option.map_some]

end Routine

/-! ## The end of a listing -/

namespace Partition

/-- The partition is one of the records from the given row on. Instructions at the front are in the
run, and not yet in a block without a header. -/
structure Covers (records : List Record) (row : ℕ) (p : Partition) : Prop where
  rows : p.run.map Entry.row ++ p.blocks.flatMap Block.rows =
    List.range' row (records.length - row)
  run : ∀ e ∈ p.run, e.Tells records
  blocks : ∀ b ∈ p.blocks, b.Tells records
  apart : p.blocks.IsChain Block.Apart
  front : ∀ b ∈ p.blocks.head?, ¬ b.Headless

variable {records : List Record} {row : ℕ} {p : Partition}

theorem covers_empty (h : records.length ≤ row) : empty.Covers records row where
  rows := by simp [empty, Nat.sub_eq_zero_of_le h]
  run := by simp [empty]
  blocks := by simp [empty]
  apart := List.IsChain.nil
  front := by simp [empty]

/-- The rows from a record on are its own and those behind it. -/
theorem range'_of_getElem? {record : Record} (h : records[row]? = some record) :
    List.range' row (records.length - row) =
      row :: List.range' (row + 1) (records.length - (row + 1)) := by
  obtain ⟨hlt, -⟩ := List.getElem?_eq_some_iff.mp h
  rw [← List.range'_succ]
  congr 1
  omega

namespace Covers

/-! ### Closing the run -/

theorem rows_close (h : p.Covers records row) :
    p.close.flatMap Block.rows = List.range' row (records.length - row) := by
  rw [← h.rows, close]
  cases p.run with
  | nil => rfl
  | cons e es => rfl

theorem tells_close (h : p.Covers records row) : ∀ b ∈ p.close, b.Tells records := by
  have hrun := h.run
  rw [close]
  cases hcase : p.run with
  | nil => exact h.blocks
  | cons e es =>
    rw [hcase] at hrun
    rw [List.forall_mem_cons]
    refine ⟨Routine.tells_ofEntries hrun (by simp) fun _ => ?_, h.blocks⟩
    exact ⟨rfl, e, rfl, rfl⟩

theorem apart_close (h : p.Covers records row) : p.close.IsChain Block.Apart := by
  rw [close]
  cases p.run with
  | nil => exact h.apart
  | cons e es => exact h.apart.cons fun b hb _ => h.front b hb

/-! ### One record more -/

section Add

variable {record : Record} (h : p.Covers records (row + 1)) (hrecord : records[row]? = some record)

include h hrecord

/-- An instruction joins the run. -/
theorem add_instruction {address : UInt64} (hkind : record.kind = .instruction address) :
    (p.add record row).Covers records row := by
  rw [Partition.add_instruction p hkind]
  constructor
  case rows =>
    rw [range'_of_getElem? hrecord, ← h.rows]
    rfl
  case run =>
    rw [List.forall_mem_cons]
    exact ⟨⟨record, hrecord, hkind, rfl⟩, h.run⟩
  case blocks => exact h.blocks
  case apart => exact h.apart
  case front => exact h.front

/-- A header claims the run for its routine. -/
theorem add_header {address : UInt64} {label : String}
    (hkind : record.kind = .header address label) : (p.add record row).Covers records row := by
  have hheader : ∀ i ∈ some row, ∃ record name, records[i]? = some record ∧
      record.kind = .header address name ∧ some label = some name := by
    rintro i ⟨⟩
    exact ⟨record, label, hrecord, hkind, rfl⟩
  rw [Partition.add_header p hkind]
  constructor
  case rows =>
    rw [range'_of_getElem? hrecord, ← h.rows]
    rfl
  case run => simp
  case blocks =>
    rw [List.forall_mem_cons]
    exact ⟨Routine.tells_ofEntries h.run hheader (by simp), h.blocks⟩
  case apart => exact h.apart.cons fun b hb _ => h.front b hb
  case front => rintro b ⟨⟩ ⟨r, ⟨⟩, ⟨⟩⟩

/-- Any other line cuts the run off. -/
theorem add_other (hkind : record.kind = .other) : (p.add record row).Covers records row := by
  rw [Partition.add_other p hkind]
  constructor
  case rows =>
    rw [range'_of_getElem? hrecord, ← h.rows_close]
    rfl
  case run => simp
  case blocks =>
    rw [List.forall_mem_cons]
    exact ⟨⟨record, hrecord, hkind⟩, h.tells_close⟩
  case apart => exact h.apart_close.cons fun b _ => by simp [Block.Apart, Block.routine?]
  case front => rintro b ⟨⟩ ⟨r, ⟨⟩, -⟩

theorem add : (p.add record row).Covers records row := by
  cases hkind : record.kind with
  | instruction address => exact h.add_instruction hrecord hkind
  | header address label => exact h.add_header hrecord hkind
  | other => exact h.add_other hrecord hkind

end Add

end Covers

/-- The records from any row on are partitioned. -/
theorem covers_addAll {rest : List Record} (h : records.drop row = rest) :
    (empty.addAll rest row).Covers records row := by
  induction rest generalizing row with
  | nil => exact covers_empty (List.drop_eq_nil_iff.mp h)
  | cons record rest ih =>
    have hrecord : records[row]? = some record := by
      rw [← List.head?_drop, h, List.head?_cons]
    have hrest : records.drop (row + 1) = rest := by
      rw [← List.tail_drop, h, List.tail_cons]
    rw [addAll_cons]
    exact (ih hrest).add hrecord

end Partition

/-! ## Whole listings -/

namespace Block

variable (records : List Record)

theorem ofRecords_eq_close : ofRecords records = (Partition.empty.addAll records 0).close := rfl

/-- The blocks cover the records in order, each of them once. -/
theorem flatMap_rows_ofRecords :
    (ofRecords records).flatMap rows = List.range records.length := by
  rw [ofRecords_eq_close, (Partition.covers_addAll List.drop_zero).rows_close, Nat.sub_zero,
    List.range_eq_range']

theorem tells_ofRecords : ∀ b ∈ ofRecords records, b.Tells records :=
  (Partition.covers_addAll List.drop_zero).tells_close

theorem apart_ofRecords : (ofRecords records).IsChain Apart :=
  (Partition.covers_addAll List.drop_zero).apart_close

/-- The blocks of a listing are the partition of its records into maximal runs: every record is in
one block and in its place, every block tells what its records announce, and no block that lacks a
header follows a routine. -/
theorem ofRecords_partition :
    (ofRecords records).flatMap rows = List.range records.length ∧
      (∀ b ∈ ofRecords records, b.Tells records) ∧
      (ofRecords records).IsChain Apart :=
  ⟨flatMap_rows_ofRecords records, tells_ofRecords records, apart_ofRecords records⟩

example :
    (ofRecords (Record.ofText
      "0000000000001000 <f>:\n1000:\t90\tnop\n...\n1010:\t90\tnop\n1011:\tc3\tret")).map rows =
      [[0, 1], [2], [3, 4]] := by
  decide

end Block

end JumpArrows
