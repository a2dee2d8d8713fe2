import JumpArrows.Annotation
import JumpArrows.Proofs.EdgeOrder
import JumpArrows.Proofs.Blocks
import JumpArrows.Proofs.PrintedLines

/-! # Listings that are printed and laid out

The outline of a routine says what is printed: addresses in increasing order and the jumps between
rows. Laying out the printed listing gives one layout per outline, with the jumps of the outline as
its edges. -/

namespace JumpArrows

/-- A routine that is to be printed. A row may jump to a row, and then the symbol of its own is
printed behind the target; blank lines stand behind the routine. -/
structure Outline where
  base : UInt64
  label : String
  size : ℕ
  address : Fin size → UInt64
  jump? : Fin size → Option (Fin size)
  symbol : Fin size → String
  blankLines : ℕ
  label_clear : '>' ∉ label.toList ∧ '\t' ∉ label.toList ∧ '\n' ∉ label.toList
  symbol_clear : ∀ i, '\t' ∉ (symbol i).toList ∧ '\n' ∉ (symbol i).toList
  increasing : ∀ i j, i < j → address i < address j
  four_digits : ∀ i, 0x1000 ≤ address i

namespace Outline

variable (o : Outline)

def text (i : Fin o.size) : List Char :=
  match o.jump? i with
  | some t => Print.jump (o.address t) (o.symbol i).toList
  | none => Print.idle

def lines : List (List Char) :=
  Print.head o.base o.label.toList ::
    (List.ofFn (fun i => Print.line (o.address i) (o.text i)) ++ List.replicate o.blankLines [])

def print (outlines : List Outline) : String :=
  String.ofList (Text.unlines (outlines.flatMap lines))

def instructions : List Instruction :=
  List.ofFn fun i => .ofText i (o.address i) (some (String.ofList (o.text i)))

/-- The layout is that of the outline. -/
structure IsLayout (layout : Layout) : Prop where
  label : layout.label = some o.label
  instructions : layout.instructions = o.size
  edges : ∀ e, e ∈ layout.edges ↔ ∃ i t, o.jump? i = some t ∧ e = .between i t
  once : layout.edges.Nodup

/-! ## The text of a row -/

theorem isField_text (i : Fin o.size) : Text.IsField (o.text i) := by
  rw [text]
  cases o.jump? i with
  | none => exact Print.isField_idle
  | some t => exact Print.isField_jump _ (o.symbol_clear i).1

theorem text_ne_nil (i : Fin o.size) : o.text i ≠ [] := by
  rw [text]
  cases o.jump? i with
  | none => exact List.cons_ne_nil _ _
  | some t => exact List.cons_ne_nil _ _

theorem feed_not_mem_text (i : Fin o.size) : '\n' ∉ o.text i := by
  rw [text]
  cases o.jump? i with
  | none => simp [Print.idle]
  | some t => simp [Print.jump, (o.symbol_clear i).2, Hex.not_mem_numeral]

/-- The target that the text of a row announces. -/
theorem target?_text (index : ℕ) (i : Fin o.size) :
    (Instruction.ofText index (o.address i) (some (String.ofList (o.text i)))).target? {} =
      (o.jump? i).map o.address := by
  rw [text]
  cases o.jump? i with
  | none => exact Instruction.target?_idle index _
  | some t => exact Instruction.target?_jump index _ _ (o.symbol_clear i).1

/-! ## Lines -/

theorem mem_lines_iff {l : List Char} :
    l ∈ o.lines ↔
      l = Print.head o.base o.label.toList ∨ (∃ i, Print.line (o.address i) (o.text i) = l) ∨
        (o.blankLines ≠ 0 ∧ l = []) := by
  simp only [lines, List.mem_cons, List.mem_append, List.mem_ofFn, List.mem_replicate]

theorem feed_not_mem_lines {l : List Char} (h : l ∈ o.lines) : '\n' ∉ l := by
  rcases o.mem_lines_iff.mp h with rfl | ⟨i, rfl⟩ | ⟨-, rfl⟩
  · simp [Print.head, o.label_clear.2.2, Hex.not_mem_padded]
  · simp [Print.line, o.feed_not_mem_text i, Hex.not_mem_numeral]
  · exact List.not_mem_nil

theorem last_ne_return {l : List Char} (h : l ∈ o.lines) : l.getLast? ≠ some '\r' := by
  rcases o.mem_lines_iff.mp h with rfl | ⟨i, rfl⟩ | ⟨-, rfl⟩
  · intro hreturn
    have hfield := Record.isField_head o.base o.label_clear.2.1
    exact absurd (hfield.last _ hreturn) (by decide)
  · intro hreturn
    rw [Print.line, List.getLast?_append_of_ne_nil _ (o.text_ne_nil i)] at hreturn
    exact absurd ((o.isField_text i).last _ hreturn) (by decide)
  · simp

/-- The records of a listing are those of the lines that were printed. -/
theorem records_print (outlines : List Outline) :
    Record.ofText (print outlines) = (outlines.flatMap lines).map Record.ofLine := by
  have hlines : Text.lines (Text.unlines (outlines.flatMap lines)) = outlines.flatMap lines := by
    apply Text.lines_unlines
    · intro l hl
      obtain ⟨o, -, ho⟩ := List.mem_flatMap.mp hl
      exact o.feed_not_mem_lines ho
    · intro l hl
      obtain ⟨o, -, ho⟩ := List.mem_flatMap.mp hl
      exact o.last_ne_return ho
  rw [Record.ofText, print, String.toList_ofList, hlines]

/-! ## Routines -/

structure IsRoutine (r : Routine) : Prop where
  label : r.label = some o.label
  lines : r.lines = o.instructions

def record (i : Fin o.size) : Record :=
  .ofLine (Print.line (o.address i) (o.text i))

theorem kind_record (i : Fin o.size) : (o.record i).kind = .instruction (o.address i) :=
  Record.kind_line (o.four_digits i) (o.isField_text i) (o.text_ne_nil i)

theorem text?_record (i : Fin o.size) : (o.record i).text? = some (String.ofList (o.text i)) :=
  Record.text?_line _ (o.isField_text i) (o.text_ne_nil i)

theorem records_lines :
    o.lines.map Record.ofLine =
      .ofLine (Print.head o.base o.label.toList) ::
        (List.ofFn o.record ++ List.replicate o.blankLines (.ofLine [])) := by
  rw [lines, List.map_cons, List.map_append, List.map_ofFn, List.map_replicate]
  rfl

theorem ofEntries_rows (label : Option String) (address : UInt64) (header : Option ℕ) (row : ℕ) :
    (Routine.ofEntries label address header
      (List.ofFn fun i : Fin o.size =>
        ⟨row + i, o.address i, some (String.ofList (o.text i))⟩)).lines = o.instructions := by
  rw [Routine.ofEntries, List.mapIdx_eq_ofFn, instructions]
  apply List.ext_getElem
  · simp
  · intro i hi hi'
    simp

/-- A printed routine in front adds one routine in front, and no instructions are left over. -/
theorem addAll_lines {p : Partition} (h : p.run = []) (row : ℕ) :
    (p.addAll (o.lines.map Record.ofLine) row).run = [] ∧
      ∃ r, o.IsRoutine r ∧
        (p.addAll (o.lines.map Record.ofLine) row).routines = r :: p.routines := by
  have hhead := Record.kind_head o.base o.label_clear.1 o.label_clear.2.1
  obtain ⟨hrun, hroutines⟩ :=
    p.addAll_other Record.kind_blank h o.blankLines (row + 1 + o.size)
  rw [records_lines, Partition.addAll_cons, Partition.addAll_append, List.length_ofFn,
    Partition.addAll_instructions _ o.kind_record, Partition.add_header _ hhead]
  refine ⟨rfl, _, ⟨?_, ?_⟩, congrArg _ hroutines⟩
  · exact congrArg some (String.ofList_toList)
  · simp only [hrun, List.append_nil, text?_record]
    exact o.ofEntries_rows _ _ _ _

/-- Printed routines become one routine each. -/
theorem addAll_routines (outlines : List Outline) (row : ℕ) :
    let p := Partition.empty.addAll ((outlines.flatMap lines).map Record.ofLine) row
    p.run = [] ∧ List.Forall₂ IsRoutine outlines p.routines := by
  induction outlines generalizing row with
  | nil => exact ⟨rfl, .nil⟩
  | cons o outlines ih =>
    obtain ⟨hrun, hroutines⟩ := ih (row + o.lines.length)
    obtain ⟨hrun', r, hr, hroutines'⟩ := o.addAll_lines hrun row
    rw [List.flatMap_cons, List.map_append, Partition.addAll_append, List.length_map]
    refine ⟨hrun', ?_⟩
    rw [hroutines']
    exact .cons hr hroutines

/-- The routines of a printed listing. -/
theorem routines_print (outlines : List Outline) :
    List.Forall₂ IsRoutine outlines
      ((Block.ofRecords (Record.ofText (print outlines))).filterMap Block.routine?) := by
  obtain ⟨hrun, hroutines⟩ := addAll_routines outlines 0
  have hclose : Block.ofRecords (Record.ofText (print outlines)) =
      (Partition.empty.addAll ((outlines.flatMap lines).map Record.ofLine) 0).blocks := by
    rw [records_print, Block.ofRecords]
    exact Partition.close_of_run hrun
  rw [hclose]
  exact hroutines

/-! ## Edges -/

theorem length_instructions : o.instructions.length = o.size :=
  List.length_ofFn

theorem address_injective : Function.Injective o.address := by
  intro i j hij
  by_contra hne
  rcases lt_or_gt_of_ne hne with hlt | hgt
  · exact UInt64.ne_of_lt (o.increasing i j hlt) hij
  · exact UInt64.ne_of_lt (o.increasing j i hgt) hij.symm

theorem getElem_instructions (i : Fin o.size) :
    o.instructions[i.cast o.length_instructions.symm] =
      .ofText i (o.address i) (some (String.ofList (o.text i))) :=
  List.getElem_ofFn _

/-- The edges of the instructions are the jumps of the outline. -/
theorem mem_edges_iff (e : Edge) :
    e ∈ Edge.ofLines {} o.instructions ↔ ∃ i t, o.jump? i = some t ∧ e = .between i t := by
  have hrow : Function.Surjective (Fin.cast o.length_instructions.symm) :=
    (finCongr o.length_instructions.symm).surjective
  have haddress (i : Fin o.size) :
      o.instructions[i.cast o.length_instructions.symm].address = o.address i := by
    rw [getElem_instructions, Instruction.ofText]
  have hleads (i t : Fin o.size) :
      Leads {} o.instructions (i.cast o.length_instructions.symm)
          (t.cast o.length_instructions.symm) ↔ o.jump? i = some t := by
    rw [leads_iff_of_increasing _ _ _ rfl, haddress, getElem_instructions, target?_text,
      ← Option.map_some, (Option.map_injective o.address_injective).eq_iff]
    rw [hrow.forall₂]
    intro i j hij
    rw [haddress, haddress]
    exact o.increasing i j hij
  rw [Edge.mem_ofLines_iff, hrow.exists₂]
  simp only [hleads, Fin.val_cast]

theorem isLayout_of_isRoutine {r : Routine} (h : o.IsRoutine r) :
    o.IsLayout (.ofRoutine {} r) := by
  obtain ⟨hlabel, hlines⟩ := h
  constructor
  · exact hlabel
  · exact (congrArg List.length hlines).trans o.length_instructions
  · intro e
    rw [← o.mem_edges_iff, ← hlines]
    rfl
  · exact Edge.nodup_ofLines {} r.lines

/-- Laying out a printed listing gives back the outlines: one layout for each, in order, with its
label, its number of instructions and its jumps. -/
theorem layouts_print (outlines : List Outline) :
    List.Forall₂ IsLayout outlines (Layout.ofRecords {} (Record.ofText (print outlines))) := by
  rw [Layout.ofRecords, List.forall₂_map_right_iff]
  exact (routines_print outlines).imp fun o r => o.isLayout_of_isRoutine

/-- A routine with a row that does not jump, one that jumps back to it and one that jumps ahead. -/
def around : Outline where
  base := 0x1000
  label := "f"
  size := 4
  address := ![0x1000, 0x1002, 0x1004, 0x1006]
  jump? := ![none, some 0, some 3, none]
  symbol := !["", "f", "f+0x6", ""]
  blankLines := 1
  label_clear := by decide
  symbol_clear := by decide
  increasing := by decide
  four_digits := by decide

/-- A routine of one row, which jumps to itself. -/
def stuck : Outline where
  base := 0x2000
  label := "g"
  size := 1
  address := ![0x2000]
  jump? := ![some 0]
  symbol := ![""]
  blankLines := 0
  label_clear := by decide
  symbol_clear := by decide
  increasing := by decide
  four_digits := by decide

theorem layouts_print_pair :
    print [around, stuck] =
      "0000000000001000 <f>:\n    1000:\t00\tnop\n    1002:\t00\tjmp 1000 <f>\n" ++
        "    1004:\t00\tjmp 1006 <f+0x6>\n    1006:\t00\tnop\n\n" ++
        "0000000000002000 <g>:\n    2000:\t00\tjmp 2000 <>\n" ∧
      List.Forall₂ IsLayout [around, stuck]
        (Layout.ofRecords {} (Record.ofText (print [around, stuck]))) := by
  refine ⟨?_, layouts_print [around, stuck]⟩
  decide +kernel

end Outline

end JumpArrows
