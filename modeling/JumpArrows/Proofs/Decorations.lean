import JumpArrows.Annotation
import JumpArrows.Proofs.BlockPartition
import JumpArrows.Proofs.GridCells

/-! # One decoration per record

The blocks of a listing give their decorations one after the other. Since they partition the
records, each decoration comes to stand in front of the record that it was made for: the margin
text of its row in front of an instruction, and nothing in front of any other line. -/

namespace JumpArrows

def Alphabet.chars (a : Alphabet) : List Char :=
  [a.vertical, a.cornerDown, a.cornerUp, a.exitMarker, a.entryMarker, a.blank] ++
    a.horizontal.toList

theorem Alphabet.char_mem_chars (a : Alphabet) (glyph : Glyph) : a.char glyph ∈ a.chars := by
  cases glyph with
  | horizontal =>
    rw [char, chars]
    cases a.horizontal <;> simp
  | _ => simp [char, chars]

/-! ## Margin texts -/

namespace Grid

variable (g : Grid) (a : Alphabet)

@[simp] theorem length_picture : (g.picture a).length = g.rows := by
  simp [picture]

/-- A picture is drawn with the characters of its alphabet. -/
theorem mem_chars_of_mem_picture {text : String} (htext : text ∈ g.picture a) {c : Char}
    (hc : c ∈ text.toList) : c ∈ a.chars := by
  obtain ⟨row, -, rfl⟩ := List.mem_map.mp htext
  rw [rowText, String.toList_ofList] at hc
  obtain ⟨glyph, -, rfl⟩ := List.mem_map.mp hc
  exact a.char_mem_chars glyph

end Grid

namespace Layout

variable (config : Config) (r : Routine)

theorem length_decorations_ofRoutine :
    (ofRoutine config r).decorations.length = r.lines.length := by
  simp [ofRoutine, ofLines, Grid.empty]

theorem mem_chars_of_mem_decorations {text : String}
    (htext : text ∈ (ofRoutine config r).decorations) {c : Char} (hc : c ∈ text.toList) :
    c ∈ config.alphabet.chars :=
  Grid.mem_chars_of_mem_picture _ _ htext hc

end Layout

/-! ## Blocks -/

namespace Block

/-- The block puts the text in front of the record of the row. -/
def Decorates (config : Config) (row : ℕ) (text : String) : Block → Prop
  | .routine r =>
    (row ∈ r.header ∧ text = "") ∨
      ∃ i : ℕ, r.rows[i]? = some row ∧ (Layout.ofRoutine config r).decorations[i]? = some text
  | .passThrough i => row = i ∧ text = ""

variable {config : Config} {records : List Record} {b : Block} {row : ℕ} {text : String}

theorem forall₂_decorations (h : b.Tells records) :
    List.Forall₂ (fun row text => b.Decorates config row text) b.rows (b.decorations config) := by
  cases b with
  | routine r =>
    have hheader : List.Forall₂ (fun row text => Decorates config row text (.routine r))
        r.header.toList (r.header.toList.map fun _ => "") := by
      rw [List.forall₂_map_right_iff, List.forall₂_same]
      exact fun row hrow => .inl ⟨Option.mem_toList.mp hrow, rfl⟩
    have hlines : List.Forall₂ (fun row text => Decorates config row text (.routine r))
        r.rows (Layout.ofRoutine config r).decorations := by
      rw [List.forall₂_iff_get]
      refine ⟨?_, fun i hrow htext => .inr ⟨i, ?_, ?_⟩⟩
      · rw [Layout.length_decorations_ofRoutine, Routine.Tells.length h]
      · exact List.getElem?_eq_getElem hrow
      · exact List.getElem?_eq_getElem htext
    exact List.rel_append hheader hlines
  | passThrough i => exact .cons ⟨rfl, rfl⟩ .nil

/-- Nothing stands in front of a record that is no instruction. -/
theorem Decorates.eq_empty (hdecorates : b.Decorates config row text) (htells : b.Tells records)
    {record : Record} (hrecord : records[row]? = some record)
    (hkind : ∀ address, record.kind ≠ .instruction address) : text = "" := by
  cases b with
  | routine r =>
    rcases hdecorates with ⟨-, rfl⟩ | ⟨i, hrow, -⟩
    · rfl
    · obtain ⟨record', address, hrecord', hkind', -⟩ := Routine.Tells.line htells i row hrow
      rw [hrecord, Option.some_inj] at hrecord'
      exact absurd (hrecord' ▸ hkind') (hkind address)
  | passThrough i => exact hdecorates.2

theorem Decorates.mem_chars (hdecorates : b.Decorates config row text) {c : Char}
    (hc : c ∈ text.toList) : c ∈ config.alphabet.chars := by
  cases b with
  | routine r =>
    rcases hdecorates with ⟨-, rfl⟩ | ⟨i, -, htext⟩
    · simp at hc
    · exact Layout.mem_chars_of_mem_decorations config r (List.mem_of_getElem? htext) hc
  | passThrough i =>
    rw [hdecorates.2] at hc
    simp at hc

end Block

/-! ## Listings -/

section Listing

variable (config : Config) (records : List Record)

/-- Every record is decorated by a block of the listing. -/
theorem forall₂_decorations :
    List.Forall₂ (fun row text => ∃ b ∈ Block.ofRecords records, b.Decorates config row text)
      (List.range records.length)
      ((Block.ofRecords records).flatMap (Block.decorations config)) := by
  rw [← Block.flatMap_rows_ofRecords]
  refine List.rel_flatMap (R := fun b c => b = c ∧ b ∈ Block.ofRecords records) ?_ ?_
  · exact List.forall₂_same.mpr fun b hb => ⟨rfl, hb⟩
  · rintro b _ ⟨rfl, hb⟩
    exact (Block.forall₂_decorations (Block.tells_ofRecords records b hb)).imp
      fun row text h => ⟨b, hb, h⟩

theorem length_decorations :
    ((Block.ofRecords records).flatMap (Block.decorations config)).length = records.length := by
  rw [← (forall₂_decorations config records).length_eq, List.length_range]

/-- Decorating keeps every record in its place. -/
theorem records_decorate : (decorate config records).map DecoratedLine.record = records := by
  apply List.ext_getElem
  · rw [List.length_map, decorate, List.length_zipWith, length_decorations, min_self]
  · intro i hi hi'
    simp [decorate]

theorem length_decorate : (decorate config records).length = records.length := by
  rw [← List.length_map DecoratedLine.record, records_decorate]

variable {config records} {i : ℕ} {line : DecoratedLine}

theorem getElem?_of_decorate (h : (decorate config records)[i]? = some line) :
    records[i]? = some line.record := by
  rw [← records_decorate config records, List.getElem?_map, h, Option.map_some]

/-- The block that decorates a record. -/
theorem exists_decorates (h : (decorate config records)[i]? = some line) :
    ∃ b ∈ Block.ofRecords records, b.Decorates config i line.decoration := by
  obtain ⟨hlt, rfl⟩ := List.getElem?_eq_some_iff.mp h
  have hi : i < records.length := by
    rwa [← length_decorate config records]
  have hdecorates := (forall₂_decorations config records).get (by rwa [List.length_range])
    (by rwa [length_decorations])
  simpa [decorate] using hdecorates

theorem decoration_eq_empty (h : (decorate config records)[i]? = some line)
    (hkind : ∀ address, line.record.kind ≠ .instruction address) : line.decoration = "" := by
  obtain ⟨b, hb, hdecorates⟩ := exists_decorates h
  exact hdecorates.eq_empty (Block.tells_ofRecords records b hb) (getElem?_of_decorate h) hkind

theorem mem_chars_of_mem_decoration (h : line ∈ decorate config records) {c : Char}
    (hc : c ∈ line.decoration.toList) : c ∈ config.alphabet.chars := by
  obtain ⟨i, hi⟩ := List.mem_iff_getElem?.mp h
  obtain ⟨b, -, hdecorates⟩ := exists_decorates hi
  exact hdecorates.mem_chars hc

end Listing

end JumpArrows
