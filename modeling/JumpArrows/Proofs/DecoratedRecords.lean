import JumpArrows.Proofs.Decorations

/-! # What stands in front of a record

A record that is an instruction has one place among the routines of its listing. Its decoration is
the margin text of that place, and as wide as the margin of its routine is deep. No other record
has a decoration. -/

namespace JumpArrows

/-! ## The width of a margin -/

namespace Grid

variable {g : Grid} {a : Alphabet} {text : String}

theorem length_of_mem_picture (h : text ∈ g.picture a) : text.length = g.depth := by
  obtain ⟨row, -, rfl⟩ := List.mem_map.mp h
  simp [rowText, Grid.row, depth]

theorem depth_pos (g : Grid) : 1 ≤ g.depth := by
  rw [depth_eq]
  omega

end Grid

/-- The decorations of a routine have the width of its margin, and that is not zero. -/
theorem Layout.width_of_mem_decorations {config : Config} {lines : List Instruction} {text : String}
    (h : text ∈ (ofLines config lines).decorations) :
    text.length = (ofLines config lines).depth ∧ 1 ≤ (ofLines config lines).depth :=
  ⟨Grid.length_of_mem_picture h, Grid.depth_pos _⟩

/-! ## Places -/

/-- Where an element stands in a list of lists is determined if no element stands twice. -/
theorem place_unique {α β : Type} {f : α → List β} {l : List α} (hnodup : (l.flatMap f).Nodup)
    {b : β} {k k' j j' : ℕ} {a a' : α} (hk : l[k]? = some a) (hj : (f a)[j]? = some b)
    (hk' : l[k']? = some a') (hj' : (f a')[j']? = some b) : k = k' ∧ j = j' := by
  obtain ⟨hinner, hdisjoint⟩ := List.nodup_flatMap.mp hnodup
  obtain ⟨hlt, rfl⟩ := List.getElem?_eq_some_iff.mp hk
  obtain ⟨hlt', rfl⟩ := List.getElem?_eq_some_iff.mp hk'
  have hb := List.mem_of_getElem? hj
  have hb' := List.mem_of_getElem? hj'
  rw [List.pairwise_iff_getElem] at hdisjoint
  rcases lt_trichotomy k k' with h | rfl | h
  · exact absurd hb' (hdisjoint k k' hlt hlt' h hb)
  · have hjlt : j < (f l[k]).length := (List.getElem?_eq_some_iff.mp hj).1
    exact ⟨rfl, (List.getElem?_inj hjlt (hinner _ (List.getElem_mem hlt))).mp (hj.trans hj'.symm)⟩
  · exact absurd hb (hdisjoint k' k hlt' hlt h hb')

namespace Routine

def ofRecords (records : List Record) : List Routine :=
  (Block.ofRecords records).filterMap Block.routine?

/-- The record of the row is an instruction of a routine: the routine's number and that of the
instruction. -/
def IsPlace (records : List Record) (row : ℕ) (place : ℕ × ℕ) : Prop :=
  ∃ r, (ofRecords records)[place.1]? = some r ∧ r.rows[place.2]? = some row

theorem mem_ofRecords_iff {records : List Record} {r : Routine} :
    r ∈ ofRecords records ↔ .routine r ∈ Block.ofRecords records := by
  rw [ofRecords, List.mem_filterMap]
  constructor
  · rintro ⟨b, hb, hr⟩
    cases b with
    | routine r' =>
      obtain rfl : r' = r := Option.some_inj.mp hr
      exact hb
    | passThrough row => cases hr
  · exact fun h => ⟨_, h, rfl⟩

/-- What the rows and instructions of a routine have to do with the records. -/
theorem tells_of_mem {records : List Record} {r : Routine} (h : r ∈ ofRecords records) :
    r.Tells records :=
  Block.tells_ofRecords records _ (mem_ofRecords_iff.mp h)

theorem rows_sublist (blocks : List Block) :
    ((blocks.filterMap Block.routine?).flatMap Routine.rows).Sublist
      (blocks.flatMap Block.rows) := by
  induction blocks with
  | nil => exact List.Sublist.refl _
  | cons b blocks ih =>
    cases b with
    | routine r => exact (List.sublist_append_right _ _).append ih
    | passThrough row => exact ih.cons _

theorem nodup_rows (records : List Record) : ((ofRecords records).flatMap Routine.rows).Nodup := by
  apply List.Nodup.sublist (rows_sublist _)
  rw [Block.flatMap_rows_ofRecords]
  exact List.nodup_range

end Routine

section Listing

variable {config : Config} {records : List Record} {i : ℕ} {line : DecoratedLine} {address : UInt64}

/-- The place whose margin text decorates an instruction. -/
theorem exists_place (h : (decorate config records)[i]? = some line)
    (hkind : line.record.kind = .instruction address) :
    ∃ (k j : ℕ) (r : Routine), (Routine.ofRecords records)[k]? = some r ∧ r.rows[j]? = some i ∧
      (Layout.ofLines config r.lines).decorations[j]? = some line.decoration := by
  obtain ⟨b, hb, hdecorates⟩ := exists_decorates h
  have htells := Block.tells_ofRecords records b hb
  have hrecord := getElem?_of_decorate h
  cases b with
  | routine r =>
    rcases hdecorates with ⟨hheader, -⟩ | ⟨j, hrow, htext⟩
    · obtain ⟨record, label, hrecord', hkind', -⟩ := Routine.Tells.header htells i hheader
      rw [hrecord, Option.some_inj] at hrecord'
      rw [← hrecord', hkind] at hkind'
      cases hkind'
    · obtain ⟨k, hk⟩ := List.getElem?_of_mem (Routine.mem_ofRecords_iff.mpr hb)
      exact ⟨k, j, r, hk, hrow, htext⟩
  | passThrough row =>
    obtain ⟨record, hrecord', hkind'⟩ := htells
    rw [← hdecorates.1, hrecord, Option.some_inj] at hrecord'
    rw [← hrecord', hkind] at hkind'
    cases hkind'

/-- An instruction has one place, and the margin text of that place is its decoration. -/
theorem existsUnique_place (h : (decorate config records)[i]? = some line)
    (hkind : line.record.kind = .instruction address) :
    ∃! place, Routine.IsPlace records i place := by
  obtain ⟨k, j, r, hk, hj, -⟩ := exists_place h hkind
  refine ⟨(k, j), ⟨r, hk, hj⟩, ?_⟩
  rintro ⟨k', j'⟩ ⟨r', hk', hj'⟩
  obtain ⟨rfl, rfl⟩ := place_unique (Routine.nodup_rows records) hk hj hk' hj'
  rfl

theorem decorations_of_place (h : (decorate config records)[i]? = some line)
    (hkind : line.record.kind = .instruction address) {k j : ℕ} {r : Routine}
    (hk : (Routine.ofRecords records)[k]? = some r) (hj : r.rows[j]? = some i) :
    (Layout.ofLines config r.lines).decorations[j]? = some line.decoration := by
  obtain ⟨k', j', r', hk', hj', htext⟩ := exists_place h hkind
  obtain ⟨rfl, rfl⟩ := place_unique (Routine.nodup_rows records) hk hj hk' hj'
  obtain rfl : r = r' := Option.some_inj.mp (hk.symm.trans hk')
  exact htext

/-- The instruction of a place is that of the record. -/
theorem line_of_place {record : Record} (hrecord : records[i]? = some record)
    (hkind : record.kind = .instruction address) {k j : ℕ} {r : Routine}
    (hk : (Routine.ofRecords records)[k]? = some r) (hj : r.rows[j]? = some i) :
    r.lines[j]? = some (.ofText j address record.text?) := by
  obtain ⟨record', address', hrecord', hkind', hline⟩ :=
    (Routine.tells_of_mem (List.mem_of_getElem? hk)).line j i hj
  obtain rfl : record = record' := Option.some_inj.mp (hrecord.symm.trans hrecord')
  rw [hkind, Record.Kind.instruction.injEq] at hkind'
  rw [hline, hkind']

/-- No routine has a row for a record that is no instruction. -/
theorem not_mem_rows {record : Record} (hrecord : records[i]? = some record)
    (hkind : ∀ address, record.kind ≠ .instruction address) :
    i ∉ (Routine.ofRecords records).flatMap Routine.rows := by
  intro hi
  obtain ⟨r, hr, hrow⟩ := List.mem_flatMap.mp hi
  obtain ⟨j, hj⟩ := List.getElem?_of_mem hrow
  obtain ⟨record', address, hrecord', hkind', -⟩ := (Routine.tells_of_mem hr).line j i hj
  obtain rfl : record = record' := Option.some_inj.mp (hrecord.symm.trans hrecord')
  exact hkind address hkind'

end Listing

/-! ## Decorations by row -/

/-- Writes each text over its row. -/
def writeAll (texts : List String) (writes : List (ℕ × String)) : List String :=
  writes.foldl (fun texts write => texts.set write.1 write.2) texts

/-- The decorations of a listing as they are written routine after routine, each margin text over
the row of its instruction. Both lists are walked as far as the shorter one goes. -/
def decorationsByRow (config : Config) (records : List Record) : List String :=
  ((Routine.ofRecords records).zip (Layout.ofRecords config records)).foldl
    (fun texts p => writeAll texts (p.1.rows.zip p.2.decorations))
    (List.replicate records.length "")

section Write

variable {texts : List String} {writes : List (ℕ × String)} {i : ℕ} {text : String}

theorem length_writeAll : (writeAll texts writes).length = texts.length := by
  induction writes generalizing texts with
  | nil => rfl
  | cons write writes ih =>
    rw [writeAll, List.foldl_cons, ← writeAll, ih, List.length_set]

theorem getElem?_writeAll_of_not_mem (h : i ∉ writes.map Prod.fst) :
    (writeAll texts writes)[i]? = texts[i]? := by
  induction writes generalizing texts with
  | nil => rfl
  | cons write writes ih =>
    rw [List.map_cons, List.mem_cons, not_or] at h
    rw [writeAll, List.foldl_cons, ← writeAll, ih h.2, List.getElem?_set_ne (Ne.symm h.1)]

/-- If no row is written twice, what is written stays. -/
theorem getElem?_writeAll_of_mem (hnodup : (writes.map Prod.fst).Nodup) (h : (i, text) ∈ writes)
    (hi : i < texts.length) : (writeAll texts writes)[i]? = some text := by
  induction writes generalizing texts with
  | nil => exact absurd h List.not_mem_nil
  | cons write writes ih =>
    rw [List.map_cons, List.nodup_cons] at hnodup
    rw [writeAll, List.foldl_cons, ← writeAll]
    rcases List.mem_cons.mp h with rfl | h
    · rw [getElem?_writeAll_of_not_mem hnodup.1, List.getElem?_set_self hi]
    · exact ih hnodup.2 h (by rwa [List.length_set])

end Write

def Routine.writes (config : Config) (r : Routine) : List (ℕ × String) :=
  r.rows.zip (Layout.ofRoutine config r).decorations

section Listing

variable (config : Config) (records : List Record)

/-- The routines and their layouts are as many, so the writes are those of all routines. -/
theorem decorationsByRow_eq :
    decorationsByRow config records =
      writeAll (List.replicate records.length "")
        ((Routine.ofRecords records).flatMap (Routine.writes config)) := by
  have hzip : (Routine.ofRecords records).zip (Layout.ofRecords config records) =
      (Routine.ofRecords records).map fun r => (r, Layout.ofRoutine config r) :=
    List.map_prod_left_eq_zip.symm
  rw [decorationsByRow, hzip, List.foldl_map, writeAll, List.foldl_flatMap]
  rfl

/-- The instructions of a routine and its margin texts are as many, so every row is written. -/
theorem map_fst_writes :
    ((Routine.ofRecords records).flatMap (Routine.writes config)).map Prod.fst =
      (Routine.ofRecords records).flatMap Routine.rows := by
  rw [List.map_flatMap]
  apply List.flatMap_congr
  intro r hr
  apply List.map_fst_zip
  rw [Layout.length_decorations_ofRoutine, (Routine.tells_of_mem hr).length]

/-- Block after block or row by row, the decorations are the same. -/
theorem map_decoration_decorate :
    (decorate config records).map DecoratedLine.decoration = decorationsByRow config records := by
  rw [decorationsByRow_eq]
  apply List.ext_getElem?
  intro i
  rw [List.getElem?_map]
  cases hline : (decorate config records)[i]? with
  | none =>
    rw [List.getElem?_eq_none_iff, length_decorate] at hline
    rw [Option.map_none, eq_comm, List.getElem?_eq_none_iff, length_writeAll,
      List.length_replicate]
    exact hline
  | some line =>
    have hi : i < (List.replicate records.length "").length := by
      rw [List.length_replicate, ← length_decorate config]
      exact (List.getElem?_eq_some_iff.mp hline).1
    by_cases hkind : ∃ address, line.record.kind = .instruction address
    · obtain ⟨address, hkind⟩ := hkind
      obtain ⟨k, j, r, hk, hj, htext⟩ := exists_place hline hkind
      refine (getElem?_writeAll_of_mem ?_ ?_ hi).symm
      · rw [map_fst_writes]
        exact Routine.nodup_rows records
      · refine List.mem_flatMap.mpr ⟨r, List.mem_of_getElem? hk, ?_⟩
        exact List.mem_of_getElem? (List.getElem?_zip_eq_some.mpr ⟨hj, htext⟩)
    · rw [not_exists] at hkind
      rw [getElem?_writeAll_of_not_mem, List.getElem?_replicate_of_lt (by simpa using hi),
        Option.map_some, decoration_eq_empty hline hkind]
      rw [map_fst_writes]
      exact not_mem_rows (getElem?_of_decorate hline) hkind

end Listing

/-- Decorating gives one line per record, in order, as if the margin texts were written over the
rows of their instructions. In front of an instruction, which has exactly one place among the
routines, stands the margin text of that place, as wide as the margin is deep; in front of all other
records stands nothing. The layouts are those of the routines in order. -/
theorem decorate_records (config : Config) (records : List Record) :
    (decorate config records).map DecoratedLine.record = records ∧
      (decorate config records).map DecoratedLine.decoration = decorationsByRow config records ∧
      Layout.ofRecords config records =
        (Routine.ofRecords records).map
          (fun r => { Layout.ofLines config r.lines with label := r.label }) ∧
      ∀ (i : ℕ) (line : DecoratedLine), (decorate config records)[i]? = some line →
        (line.decoration = "" ↔ ∀ address, line.record.kind ≠ .instruction address) ∧
        ∀ address, line.record.kind = .instruction address →
          (∃! place, Routine.IsPlace records i place) ∧
          ∀ (k j : ℕ) (r : Routine), (Routine.ofRecords records)[k]? = some r →
            r.rows[j]? = some i →
            r.lines[j]? = some (.ofText j address line.record.text?) ∧
              (Layout.ofLines config r.lines).decorations[j]? = some line.decoration ∧
              line.decoration.length = (Layout.ofLines config r.lines).depth ∧
              1 ≤ (Layout.ofLines config r.lines).depth := by
  refine ⟨records_decorate config records, map_decoration_decorate config records, rfl,
    fun i line hline => ⟨⟨?_, ?_⟩, ?_⟩⟩
  · intro hempty address hkind
    obtain ⟨k, j, r, -, -, htext⟩ := exists_place hline hkind
    obtain ⟨hwidth, hpos⟩ := Layout.width_of_mem_decorations (List.mem_of_getElem? htext)
    rw [hempty, String.length_empty] at hwidth
    omega
  · exact decoration_eq_empty hline
  · intro address hkind
    refine ⟨existsUnique_place hline hkind, fun k j r hk hj => ?_⟩
    have htext := decorations_of_place hline hkind hk hj
    have hwidth := Layout.width_of_mem_decorations (List.mem_of_getElem? htext)
    exact ⟨line_of_place (getElem?_of_decorate hline) hkind hk hj, htext, hwidth⟩

end JumpArrows
