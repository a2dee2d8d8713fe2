import JumpArrows.Proofs.Decorations
import JumpArrows.Proofs.LetterCase

/-! # Listings in letters of either case

Of a record, only the field with the instruction's text is read without regard to letter case. If
its capitals are made small, the blocks of a listing are the same but for the texts in them, and
every layout is the same. So listings that differ there in letter case only are decorated alike, and
the case of jump prefixes does not count either. -/

namespace JumpArrows

/-! ## Layouts -/

namespace Layout

variable (config : Config) (lines : List Instruction)

theorem sites_caseless :
    Site.ofLines config.caseless (lines.map .caseless) = Site.ofLines config lines := by
  apply List.ext_getElem
  · simp [Site.ofLines]
  · intro row hrow hrow'
    simp only [Site.ofLines, List.getElem_mapIdx, List.getElem_map, Instruction.target?_caseless]
    rfl

theorem ofLines_caseless :
    ofLines config.caseless (lines.map .caseless) = ofLines config lines := by
  have hedges : Edge.ofLines config.caseless (lines.map .caseless) = Edge.ofLines config lines := by
    rw [Edge.ofLines_eq_ofSites, sites_caseless, Edge.ofLines_eq_ofSites]
    rfl
  rw [ofLines, hedges, List.length_map, ofLines]
  rfl

end Layout

/-! ## Blocks -/

def Entry.caseless (e : Entry) : Entry :=
  { e with text? := e.text?.map Text.caseless }

namespace Routine

def caseless (r : Routine) : Routine :=
  { r with lines := r.lines.map .caseless }

theorem caseless_ofEntries (label : Option String) (address : UInt64) (header : Option ℕ)
    (entries : List Entry) :
    (ofEntries label address header entries).caseless =
      ofEntries label address header (entries.map .caseless) := by
  have hlines :
      ((entries.map Entry.caseless).mapIdx fun i e => Instruction.ofText i e.address e.text?) =
        (entries.mapIdx fun i e => Instruction.ofText i e.address e.text?).map .caseless := by
    apply List.ext_getElem?
    simp [Entry.caseless, Instruction.ofText_caseless, Function.comp_def]
  simp [caseless, ofEntries, hlines, Entry.caseless, Function.comp_def]

end Routine

theorem Layout.ofRoutine_caseless (config : Config) (r : Routine) :
    ofRoutine config.caseless r.caseless = ofRoutine config r := by
  rw [ofRoutine, Routine.caseless, ofLines_caseless, ofRoutine]

namespace Block

def caseless : Block → Block
  | .routine r => .routine r.caseless
  | .passThrough row => .passThrough row

theorem decorations_caseless (config : Config) (b : Block) :
    b.caseless.decorations config.caseless = b.decorations config := by
  cases b with
  | routine r =>
    rw [caseless, decorations, decorations, Layout.ofRoutine_caseless]
    rfl
  | passThrough row => rfl

theorem routines_caseless (blocks : List Block) :
    (blocks.map caseless).filterMap routine? = (blocks.filterMap routine?).map .caseless := by
  rw [List.filterMap_map, List.map_filterMap]
  congr 1
  funext b
  cases b <;> rfl

end Block

/-! ## Records -/

namespace Record

/-- The record of the same fields, with the capitals of the instruction's text made small. -/
def caseless (record : Record) : Record :=
  ofFields (record.fields.modify 2 Text.caseless)

theorem kind_caseless (record : Record) : record.caseless.kind = record.kind := by
  have hhead : (record.fields.modify 2 Text.caseless).head? = record.fields.head? := by
    cases record.fields <;> rfl
  rw [kind, caseless, ofFields, hhead, kind]

theorem text?_caseless (record : Record) :
    record.caseless.text? = record.text?.map Text.caseless := by
  have hfield :
      (record.fields.modify 2 Text.caseless)[2]? = record.fields[2]?.map Text.caseless := by
    rw [List.getElem?_modify]
    rfl
  rw [text?, caseless, ofFields, hfield, text?]
  cases record.fields[2]? with
  | none => rfl
  | some text => simp [Option.filter, Text.isBlankText_lower, apply_ite]

end Record

namespace Partition

variable (p : Partition)

def caseless : Partition :=
  ⟨p.run.map .caseless, p.blocks.map .caseless⟩

theorem close_caseless : p.caseless.close = p.close.map .caseless := by
  obtain ⟨run, blocks⟩ := p
  cases run with
  | nil => rfl
  | cons e es => simp [close, caseless, Block.caseless, Routine.caseless_ofEntries, Entry.caseless]

theorem add_caseless (record : Record) (row : ℕ) :
    p.caseless.add record.caseless row = (p.add record row).caseless := by
  have hkept := record.kind_caseless
  cases hkind : record.kind with
  | instruction address =>
    rw [hkind] at hkept
    simp [add_instruction _ hkind, add_instruction _ hkept, caseless, Entry.caseless,
      Record.text?_caseless]
  | header address label =>
    rw [hkind] at hkept
    simp [add_header _ hkind, add_header _ hkept, caseless, Block.caseless,
      Routine.caseless_ofEntries]
  | other =>
    rw [hkind] at hkept
    rw [add_other _ hkind, add_other _ hkept, close_caseless]
    rfl

theorem addAll_caseless (records : List Record) (row : ℕ) :
    p.caseless.addAll (records.map .caseless) row = (p.addAll records row).caseless := by
  induction records generalizing row with
  | nil => rfl
  | cons record records ih => rw [List.map_cons, addAll_cons, addAll_cons, ih, add_caseless]

end Partition

theorem Block.ofRecords_caseless (records : List Record) :
    ofRecords (records.map .caseless) = (ofRecords records).map .caseless := by
  rw [ofRecords_eq_close, ofRecords_eq_close, ← Partition.close_caseless,
    ← Partition.addAll_caseless]
  rfl

section Listing

variable (config : Config) (records : List Record)

theorem decorations_decorate :
    (decorate config records).map DecoratedLine.decoration =
      (Block.ofRecords records).flatMap (Block.decorations config) := by
  apply List.ext_getElem
  · rw [List.length_map, length_decorate, length_decorations]
  · intro i hi hi'
    simp [decorate]

theorem decorations_caseless :
    (decorate config.caseless (records.map .caseless)).map DecoratedLine.decoration =
      (decorate config records).map DecoratedLine.decoration := by
  rw [decorations_decorate, decorations_decorate, Block.ofRecords_caseless, List.flatMap_map]
  simp only [Block.decorations_caseless]

theorem Layout.ofRecords_caseless :
    ofRecords config.caseless (records.map .caseless) = ofRecords config records := by
  rw [ofRecords, Block.ofRecords_caseless, Block.routines_caseless, List.map_map]
  simp only [Function.comp_def, ofRoutine_caseless]
  rfl

end Listing

/-- Letter case does not count. Listings of which the records have the same fields, but for the case
of ASCII letters in the text of the instruction, have the same decorations and the same layouts,
also if the configurations differ in the case of letters in the jump prefixes. -/
theorem decorate_of_letter_case {config config' : Config} {records records' : List Record}
    (hconfig : config.caseless = config'.caseless)
    (hrecords : records.map Record.caseless = records'.map Record.caseless) :
    (decorate config records).map DecoratedLine.decoration =
        (decorate config' records').map DecoratedLine.decoration ∧
      Layout.ofRecords config records = Layout.ofRecords config' records' := by
  constructor
  · rw [← decorations_caseless, hconfig, hrecords, decorations_caseless]
  · rw [← Layout.ofRecords_caseless, hconfig, hrecords, Layout.ofRecords_caseless]

def Record.small : List Record :=
  [ofFields ["100a:", "eb fe", "jmp 0x100a"], ofFields ["100c:", "75 fc", "jne 100a"]]

def Record.mixed : List Record :=
  [ofFields ["100a:", "eb fe", "JMP 0X100A"], ofFields ["100c:", "75 fc", "Jne 100A"]]

theorem decorate_of_letter_case_mixed :
    Config.caseless { jumpPrefixes := ["jM", "jn"] } =
        Config.caseless { jumpPrefixes := ["Jm", "JN"] } ∧
      Record.small.map Record.caseless = Record.mixed.map Record.caseless ∧
      (decorate { jumpPrefixes := ["jM", "jn"] } Record.small).map DecoratedLine.decoration =
        (decorate { jumpPrefixes := ["Jm", "JN"] } Record.mixed).map DecoratedLine.decoration := by
  have hconfig : Config.caseless { jumpPrefixes := ["jM", "jn"] } =
      Config.caseless { jumpPrefixes := ["Jm", "JN"] } := by
    decide
  have hfirst : Text.caseless "jmp 0x100a" = Text.caseless "JMP 0X100A" := by decide
  have hsecond : Text.caseless "jne 100a" = Text.caseless "Jne 100A" := by decide
  have hrecords : Record.small.map Record.caseless = Record.mixed.map Record.caseless := by
    simp [Record.small, Record.mixed, Record.caseless, Record.ofFields, hfirst, hsecond]
  exact ⟨hconfig, hrecords, (decorate_of_letter_case hconfig hrecords).1⟩

end JumpArrows
