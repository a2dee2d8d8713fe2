import JumpArrows.Proofs.Decorations

/-! # Listings one behind the other

Blocks do not know of each other. Where no routine reaches from one listing into the next, the
blocks of both together are the blocks of each, those of the second counted on from the end of the
first. A layout does not depend on where its routine stands, so layouts and decorations are those
of each listing by itself. -/

namespace JumpArrows

/-! ## Counting on -/

/-- The entry with its row counted on by `n`. -/
def Entry.shift (n : ℕ) (e : Entry) : Entry :=
  { e with row := e.row + n }

namespace Routine

def shift (n : ℕ) (r : Routine) : Routine :=
  { r with header := r.header.map (· + n), rows := r.rows.map (· + n) }

theorem shift_ofEntries (n : ℕ) (label : Option String) (address : UInt64) (header : Option ℕ)
    (entries : List Entry) :
    (ofEntries label address header entries).shift n =
      ofEntries label address (header.map (· + n)) (entries.map (.shift n)) := by
  have hlines :
      ((entries.map (Entry.shift n)).mapIdx fun i e => Instruction.ofText i e.address e.text?) =
        entries.mapIdx fun i e => Instruction.ofText i e.address e.text? := by
    apply List.ext_getElem?
    simp [Entry.shift, Function.comp_def]
  simp [shift, ofEntries, hlines, Entry.shift, Function.comp_def]

end Routine

/-- A layout does not depend on where its routine stands. -/
@[simp] theorem Layout.ofRoutine_shift (config : Config) (n : ℕ) (r : Routine) :
    ofRoutine config (r.shift n) = ofRoutine config r := rfl

namespace Block

def shift (n : ℕ) : Block → Block
  | .routine r => .routine (r.shift n)
  | .passThrough row => .passThrough (row + n)

@[simp] theorem decorations_shift (config : Config) (n : ℕ) (b : Block) :
    (b.shift n).decorations config = b.decorations config := by
  cases b with
  | routine r =>
    have hheader : (r.shift n).header = r.header.map (· + n) := rfl
    cases h : r.header <;> simp [shift, decorations, hheader, h]
  | passThrough row => rfl

theorem routines_shift (n : ℕ) (blocks : List Block) :
    (blocks.map (shift n)).filterMap routine? = (blocks.filterMap routine?).map (.shift n) := by
  rw [List.filterMap_map, List.map_filterMap]
  congr 1
  funext b
  cases b <;> rfl

end Block

namespace Partition

variable (p : Partition) (n : ℕ)

def shift : Partition :=
  ⟨p.run.map (.shift n), p.blocks.map (.shift n)⟩

@[simp] theorem shift_empty : empty.shift n = empty := rfl

theorem close_shift : (p.shift n).close = p.close.map (.shift n) := by
  obtain ⟨run, blocks⟩ := p
  cases run with
  | nil => rfl
  | cons e es => simp [close, shift, Block.shift, Routine.shift_ofEntries, Entry.shift]

theorem add_shift (record : Record) (row : ℕ) :
    (p.shift n).add record (row + n) = (p.add record row).shift n := by
  cases hkind : record.kind with
  | instruction address => simp [add_instruction _ hkind, shift, Entry.shift]
  | header address label =>
    simp [add_header _ hkind, shift, Block.shift, Routine.shift_ofEntries]
  | other =>
    rw [add_other _ hkind, add_other _ hkind, close_shift]
    rfl

theorem addAll_shift (records : List Record) (row : ℕ) :
    (p.shift n).addAll records (row + n) = (p.addAll records row).shift n := by
  induction records generalizing row with
  | nil => rfl
  | cons record records ih =>
    rw [addAll_cons, addAll_cons, add_right_comm, ih, add_shift]

/-! ## More blocks behind -/

def before (blocks : List Block) : Partition :=
  { p with blocks := p.blocks ++ blocks }

variable {p} {blocks : List Block}

theorem close_before : (p.before blocks).close = p.close ++ blocks := by
  obtain ⟨run, own⟩ := p
  cases run <;> rfl

theorem add_before (record : Record) (row : ℕ) :
    (p.before blocks).add record row = (p.add record row).before blocks := by
  cases hkind : record.kind with
  | instruction address => simp [add_instruction _ hkind, before]
  | header address label => simp [add_header _ hkind, before]
  | other =>
    rw [add_other _ hkind, add_other _ hkind, close_before]
    rfl

theorem addAll_before (records : List Record) (row : ℕ) :
    (p.before blocks).addAll records row = (p.addAll records row).before blocks := by
  induction records generalizing row with
  | nil => rfl
  | cons record records ih => rw [addAll_cons, addAll_cons, ih, add_before]

/-- Without instructions at its front, a partition goes on as if it ended there. -/
theorem addAll_of_run (h : p.run = []) (records : List Record) (row : ℕ) :
    p.addAll records row = (empty.addAll records row).before p.blocks := by
  rw [← addAll_before]
  congr 1
  obtain ⟨run, own⟩ := p
  subst h
  rfl

/-- A line that is passed through closes the run behind it. -/
theorem addAll_concat_other {record : Record} (h : record.kind = .other) (records : List Record)
    (row : ℕ) :
    p.addAll (records ++ [record]) row =
      (empty.addAll (records ++ [record]) row).before p.close := by
  have hlast : p.add record (row + records.length) =
      (empty.add record (row + records.length)).before p.close := by
    rw [add_other _ h, add_other _ h]
    rfl
  rw [addAll_append, addAll_append, ← addAll_before]
  exact congrArg (·.addAll records row) hlast

/-- Records that do not start with an instruction leave none at the front. -/
theorem run_addAll {records : List Record}
    (h : ∀ record ∈ records.head?, ∀ address, record.kind ≠ .instruction address) (row : ℕ) :
    (empty.addAll records row).run = [] := by
  cases records with
  | nil => rfl
  | cons record records =>
    rw [addAll_cons]
    cases hkind : record.kind with
    | instruction address => exact absurd hkind (h record rfl address)
    | header address label => rw [add_header _ hkind]
    | other => rw [add_other _ hkind]

end Partition

/-! ## The cut between two listings -/

/-- No routine reaches from the first records into the others: there are none on one side, or the
others do not start with an instruction, or the first ones end in a line that is passed through. -/
def Record.Parted (front back : List Record) : Prop :=
  front = [] ∨ back = [] ∨
    (∃ record ∈ back.head?, ∀ address, record.kind ≠ .instruction address) ∨
    ∃ record ∈ front.getLast?, record.kind = .other

variable {front back : List Record}

theorem Partition.close_addAll (h : Record.Parted front back) (row : ℕ) :
    ((empty.addAll back (row + front.length)).addAll front row).close =
      (empty.addAll front row).close ++ (empty.addAll back (row + front.length)).close := by
  have hfree (hrun : (empty.addAll back (row + front.length)).run = []) :
      ((empty.addAll back (row + front.length)).addAll front row).close =
        (empty.addAll front row).close ++ (empty.addAll back (row + front.length)).close := by
    rw [addAll_of_run hrun, close_before, ← close_of_run hrun]
  rcases h with rfl | rfl | ⟨record, hrecord, hkind⟩ | ⟨record, hrecord, hkind⟩
  · rfl
  · exact hfree rfl
  · apply hfree
    apply run_addAll
    intro record' hrecord'
    rwa [Option.mem_unique hrecord' hrecord]
  · obtain ⟨init, rfl⟩ := List.getLast?_eq_some_iff.mp hrecord
    rw [addAll_concat_other hkind, close_before]

/-- The blocks of two listings are those of the first and, counted on, those of the second. -/
theorem Block.ofRecords_append (h : Record.Parted front back) :
    ofRecords (front ++ back) = ofRecords front ++ (ofRecords back).map (shift front.length) := by
  rw [ofRecords_eq_close, ofRecords_eq_close, ofRecords_eq_close, Partition.addAll_append,
    Partition.close_addAll h, ← Partition.close_shift, ← Partition.addAll_shift,
    Partition.shift_empty]

/-- Listings of which no routine reaches into the next are decorated and laid out by themselves. -/
theorem decorate_append (config : Config) (h : Record.Parted front back) :
    decorate config (front ++ back) = decorate config front ++ decorate config back ∧
      Layout.ofRecords config (front ++ back) =
        Layout.ofRecords config front ++ Layout.ofRecords config back := by
  constructor
  · rw [decorate, Block.ofRecords_append h, List.flatMap_append, List.flatMap_map]
    simp only [Block.decorations_shift]
    exact List.zipWith_append (length_decorations config front)
  · rw [Layout.ofRecords, Block.ofRecords_append h, List.filterMap_append, List.map_append,
      Block.routines_shift, List.map_map]
    simp only [Function.comp_def, Layout.ofRoutine_shift]
    rfl

/-- A listing with one routine, whose last row jumps to its first. -/
def Record.spin : List Record :=
  ofText "0000000000001000 <spin>:\n1000:\t90\tnop\n1001:\teb fd\tjmp 1000 <spin>\n"

theorem decorate_append_spin :
    Record.Parted Record.spin Record.spin ∧
      decorate {} (Record.spin ++ Record.spin) =
        decorate {} Record.spin ++ decorate {} Record.spin ∧
      Layout.ofRecords {} (Record.spin ++ Record.spin) =
        Layout.ofRecords {} Record.spin ++ Layout.ofRecords {} Record.spin := by
  have hhead : Record.spin.head?.map Record.kind = some (.header 0x1000 "spin") := by decide
  have hparted : Record.Parted Record.spin Record.spin := by
    obtain ⟨record, hrecord, hkind⟩ := Option.map_eq_some_iff.mp hhead
    refine .inr (.inr (.inl ⟨record, hrecord, fun address => ?_⟩))
    rw [hkind]
    exact Record.Kind.noConfusion
  exact ⟨hparted, decorate_append {} hparted⟩

/-- Two runs of instructions without a header between them are one routine, and a jump can reach
from one into the other. -/
example :
    let front := Record.ofText "1000:\t90\tnop\n"
    let back := Record.ofText "1001:\teb fd\tjmp 1000\n"
    (Layout.ofRecords {} (front ++ back)).map Layout.edges = [[.between 1 0]] ∧
      (Layout.ofRecords {} front ++ Layout.ofRecords {} back).map Layout.edges = [[], []] := by
  decide

end JumpArrows
