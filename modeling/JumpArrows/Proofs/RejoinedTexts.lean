import JumpArrows.Listing.Instruction
import JumpArrows.Listing.Record
import JumpArrows.Proofs.Numerals
import JumpArrows.Proofs.Words

/-! # Texts that are put together again

A cut is undone by joining its pieces, and the joined text is cut into the same pieces again: the
fields of a record with tabs between them, and the mnemonic and operands of an instruction as it is
displayed. Both go by what trimming leaves, which has no white space at its ends. -/

namespace JumpArrows

/-! ## Trimmed texts -/

namespace Text

structure IsTrimmed (s : List Char) : Prop where
  head : ∀ c ∈ s.head?, isBlank c = false
  last : ∀ c ∈ s.getLast?, isBlank c = false

theorem isPrefix_trim (s : List Char) : trim s <+: s.dropWhile isBlank :=
  List.rdropWhile_prefix _ _

theorem isTrimmed_trim (s : List Char) : IsTrimmed (trim s) where
  head := by
    obtain ⟨t, ht⟩ := isPrefix_trim s
    intro c hc
    apply head_dropWhile isBlank s
    rw [← ht, List.head?_append, Option.mem_def.mp hc, Option.some_or, Option.mem_some_iff]
  last := by
    intro c hc
    have hne : trim s ≠ [] := by
      rintro hnil
      rw [hnil] at hc
      cases hc
    have hlast := List.rdropWhile_last_not isBlank (s.dropWhile isBlank) hne
    rw [List.getLast?_eq_some_getLast hne, Option.mem_some_iff] at hc
    rw [← hc]
    exact Bool.eq_false_of_not_eq_true hlast

theorem not_mem_trim {c : Char} {s : List Char} (h : c ∉ s) : c ∉ trim s :=
  fun hmem => h ((List.dropWhile_suffix _).subset ((isPrefix_trim s).subset hmem))

theorem IsTrimmed.trim {s : List Char} (h : IsTrimmed s) : trim s = s :=
  trim_of_ends h.head h.last

section Words

variable {word : List Char} (hword : ∀ c ∈ word, isBlank c = false)

include hword

theorem isTrimmed_word : IsTrimmed word where
  head c hc := hword c (List.mem_of_mem_head? hc)
  last c hc := hword c (List.mem_of_mem_getLast? hc)

theorem beforeBlank_word : beforeBlank word = word :=
  List.takeWhile_eq_self_iff.mpr (by simpa using hword)

theorem afterBlank_word : afterBlank word = [] := by
  rw [afterBlank, List.dropWhile_eq_nil_iff.mpr (by simpa using hword), List.tail_nil]

theorem IsTrimmed.word_append {s : List Char} (h : IsTrimmed s) (hne : word ≠ []) (hs : s ≠ []) :
    IsTrimmed (word ++ ' ' :: s) where
  head := by
    rw [List.head?_append_of_ne_nil _ hne]
    exact (isTrimmed_word hword).head
  last := by
    rw [List.append_cons, List.getLast?_append_of_ne_nil _ hs]
    exact h.last

end Words

/-! ## Pieces between separators -/

theorem not_mem_of_mem_splitOn {x : Char} {s piece : List Char} (h : piece ∈ s.splitOn x) :
    x ∉ piece := by
  induction s generalizing piece with
  | nil =>
    rw [List.splitOn_nil, List.mem_singleton] at h
    exact h ▸ List.not_mem_nil
  | cons c s ih =>
    obtain ⟨first, others, hs⟩ := List.exists_cons_of_ne_nil (List.splitOn_ne_nil x s)
    rw [List.splitOn_cons_eq_if_modifyHead, hs] at h
    rw [hs] at ih
    split at h
    case isTrue =>
      rcases List.mem_cons.mp h with rfl | h
      · exact List.not_mem_nil
      · exact ih h
    case isFalse hc =>
      rcases List.mem_cons.mp h with rfl | h
      · rw [List.mem_cons, not_or]
        exact ⟨fun hx => hc (beq_iff_eq.mpr hx.symm), ih List.mem_cons_self⟩
      · exact ih (List.mem_cons_of_mem _ h)

/-- A joined text ends as one of its pieces or in a separator. -/
theorem getLast_intercalate {x : Char} {ls : List (List Char)} :
    ∀ c ∈ ([x].intercalate ls).getLast?, c = x ∨ ∃ l ∈ ls, c ∈ l.getLast? := by
  induction ls with
  | nil => simp [List.intercalate]
  | cons l ls ih =>
    intro c hc
    cases ls with
    | nil =>
      rw [List.intercalate_singleton] at hc
      exact .inr ⟨l, List.mem_cons_self, hc⟩
    | cons l' ls =>
      rw [List.intercalate_cons_cons, List.getLast?_append] at hc
      cases hlast : ([x].intercalate (l' :: ls)).getLast? with
      | none =>
        left
        simpa [hlast, eq_comm] using hc
      | some d =>
        rw [hlast, Option.some_or, Option.mem_some_iff] at hc
        refine (ih c (by rw [hlast, hc, Option.mem_some_iff])).imp_right ?_
        rintro ⟨k, hk, hend⟩
        exact ⟨k, List.mem_cons_of_mem _ hk, hend⟩

end Text

/-! ## Records -/

namespace Record

theorem toList_raw_ofFields (fields : List String) :
    (ofFields fields).raw.toList = ['\t'].intercalate (fields.map String.toList) :=
  String.toList_intercalate

theorem fields_ofLine_ne_nil (line : List Char) : (ofLine line).fields ≠ [] := by
  rw [ofLine, ne_eq, List.map_eq_nil_iff]
  exact List.splitOn_ne_nil _ _

theorem isField_of_mem_ofLine {line : List Char} {field : String}
    (h : field ∈ (ofLine line).fields) : Text.IsField field.toList := by
  obtain ⟨piece, hpiece, rfl⟩ := List.mem_map.mp h
  have htrimmed := Text.isTrimmed_trim piece
  rw [String.toList_ofList]
  exact ⟨Text.not_mem_trim (Text.not_mem_of_mem_splitOn hpiece), htrimmed.head, htrimmed.last⟩

/-- Fields that stand trimmed between tabs are read back. -/
theorem ofLine_raw_ofFields {fields : List String} (hne : fields ≠ [])
    (h : ∀ field ∈ fields, Text.IsField field.toList) :
    ofLine (ofFields fields).raw.toList = ofFields fields := by
  have hkeep : Text.dropEndWhile Text.isLineEnd (ofFields fields).raw.toList =
      (ofFields fields).raw.toList := by
    apply Text.dropEndWhile_of_getLast
    rw [toList_raw_ofFields]
    intro c hc
    rcases Text.getLast_intercalate c hc with rfl | ⟨l, hl, hc⟩
    · rfl
    · obtain ⟨field, hfield, rfl⟩ := List.mem_map.mp hl
      exact (h field hfield).last_not_lineEnd c hc
  have hcut : (ofFields fields).raw.toList.splitOn '\t' = fields.map String.toList := by
    rw [toList_raw_ofFields]
    apply List.splitOn_intercalate
    · intro l hl
      obtain ⟨field, hfield, rfl⟩ := List.mem_map.mp hl
      exact (h field hfield).tab
    · simpa using hne
  have htrim : fields.map (fun field => String.ofList (Text.trim field.toList)) = fields := by
    conv_rhs => rw [← List.map_id fields]
    apply List.map_congr_left
    intro field hfield
    rw [(h field hfield).trim, String.ofList_toList, id]
  rw [ofLine, hkeep, hcut, List.map_map, String.ofList_toList]
  simp only [Function.comp_def, htrim]
  rfl

/-- Cutting a line and joining fields are inverse to each other. A record of trimmed fields without
tabs comes back from its line, and every line has such fields, so its fields come back when they are
joined and cut again. -/
theorem ofLine_ofFields :
    (∀ fields : List String, fields ≠ [] → (∀ field ∈ fields, Text.IsField field.toList) →
        ofLine (ofFields fields).raw.toList = ofFields fields) ∧
      ∀ line, (ofLine line).fields ≠ [] ∧
        (∀ field ∈ (ofLine line).fields, Text.IsField field.toList) ∧
        (ofLine (ofFields (ofLine line).fields).raw.toList).fields = (ofLine line).fields := by
  refine ⟨fun fields => ofLine_raw_ofFields, fun line => ?_⟩
  have hne := fields_ofLine_ne_nil line
  have hfields : ∀ field ∈ (ofLine line).fields, Text.IsField field.toList :=
    fun _ => isField_of_mem_ofLine
  refine ⟨hne, hfields, ?_⟩
  rw [ofLine_raw_ofFields hne hfields]
  rfl

theorem ofLine_ofFields_gaps :
    (∀ field ∈ ["1000:", "", "a\nb", ""], Text.IsField field.toList) ∧
      ofLine (ofFields ["1000:", "", "a\nb", ""]).raw.toList =
        ofFields ["1000:", "", "a\nb", ""] := by
  have hempty : Text.IsField [] := ⟨by simp, by simp, by simp⟩
  have hfields : ∀ field ∈ ["1000:", "", "a\nb", ""], Text.IsField field.toList := by
    simp only [List.forall_mem_cons]
    exact ⟨⟨by simp, by simp [Text.isBlank], by simp [Text.isBlank]⟩, hempty,
      ⟨by simp, by simp [Text.isBlank], by simp [Text.isBlank]⟩, hempty, by simp⟩
  exact ⟨hfields, ofLine_ofFields.1 _ (by decide) hfields⟩

end Record

/-! ## Instructions -/

namespace Instruction

/-- An instruction that is cut as far as it can be: a mnemonic is one word, operands are trimmed,
neither is empty, and without a mnemonic there are no operands. -/
structure IsNormal (i : Instruction) : Prop where
  mnemonic : ∀ m ∈ i.mnemonic, m.toList ≠ [] ∧ ∀ c ∈ m.toList, Text.isBlank c = false
  operands : ∀ o ∈ i.operands, o.toList ≠ [] ∧ Text.IsTrimmed o.toList
  placeholder : i.mnemonic = none → i.operands = none

def spaced (text? : Option String) : List Char :=
  (text?.map fun t => ' ' :: t.toList).getD []

def shown (i : Instruction) : List Char :=
  spaced i.mnemonic ++ spaced i.operands

theorem present?_eq_some_iff {s : List Char} {t : String} :
    present? s = some t ↔ s ≠ [] ∧ t.toList = s := by
  cases s with
  | nil => simp [present?]
  | cons c s =>
    change some (String.ofList (c :: s)) = some t ↔ _
    rw [Option.some.injEq, and_iff_right (List.cons_ne_nil c s)]
    constructor
    · rintro rfl
      exact String.toList_ofList
    · intro ht
      rw [← ht, String.ofList_toList]

theorem present?_eq_none_iff {s : List Char} : present? s = none ↔ s = [] := by
  cases s with
  | nil => simp [present?]
  | cons c s => simp [present?]

theorem mnemonic_ofText (index : ℕ) (address : UInt64) (text? : Option String) :
    (ofText index address text?).mnemonic =
      present? (Text.beforeBlank (Text.trim (text?.getD "").toList)) := by
  rw [ofText]

theorem operands_ofText (index : ℕ) (address : UInt64) (text? : Option String) :
    (ofText index address text?).operands =
      present? (Text.trim (Text.afterBlank (Text.trim (text?.getD "").toList))) := by
  rw [ofText]

theorem isNormal_ofText (index : ℕ) (address : UInt64) (text? : Option String) :
    (ofText index address text?).IsNormal where
  mnemonic := by
    intro m hm
    rw [mnemonic_ofText, Option.mem_def, present?_eq_some_iff] at hm
    obtain ⟨hne, hm⟩ := hm
    rw [hm]
    refine ⟨hne, fun c hc => ?_⟩
    simpa using List.mem_takeWhile_imp hc
  operands := by
    intro o ho
    rw [operands_ofText, Option.mem_def, present?_eq_some_iff] at ho
    obtain ⟨hne, ho⟩ := ho
    rw [ho]
    exact ⟨hne, Text.isTrimmed_trim _⟩
  placeholder := by
    intro hword
    rw [mnemonic_ofText, present?_eq_none_iff] at hword
    rw [operands_ofText, present?_eq_none_iff]
    -- trimmed, a text starts with a word unless it is empty
    have hhead := (Text.isTrimmed_trim (text?.getD "").toList).head
    generalize Text.trim (text?.getD "").toList = text at hword hhead ⊢
    cases text with
    | nil => rfl
    | cons c text =>
      rw [Text.beforeBlank, List.takeWhile_cons_of_pos] at hword
      · cases hword
      · simp [hhead c rfl]

theorem display_eq (i : Instruction) :
    i.display.toList = Hex.numeral i.address.toNat ++ ':' :: i.shown := by
  simp [display, shown, spaced]

theorem colon_not_mem_numeral (n : ℕ) : ':' ∉ Hex.numeral n := by
  intro h
  exact absurd (Hex.isLowerDigit_of_mem_numeral h) (by decide)

theorem ofText_shown {i : Instruction} (h : i.IsNormal) :
    ofText i.index i.address (some (String.ofList i.shown)) = i := by
  obtain ⟨index, address, mnemonic, operands⟩ := i
  cases mnemonic with
  | none =>
    obtain rfl : operands = none := h.placeholder rfl
    have hshown : shown ⟨index, address, none, none⟩ = [] := rfl
    rw [ofText, hshown, Option.getD_some, String.toList_ofList]
    rfl
  | some m =>
    obtain ⟨hm, hword⟩ := h.mnemonic m rfl
    have hmnemonic : present? m.toList = some m := present?_eq_some_iff.mpr ⟨hm, rfl⟩
    cases operands with
    | none =>
      have hshown : shown ⟨index, address, some m, none⟩ = ' ' :: m.toList :=
        List.append_nil _
      rw [ofText, hshown, Option.getD_some, String.toList_ofList,
        Text.trim_blank_cons Text.isBlank_space, (Text.isTrimmed_word hword).trim,
        Text.beforeBlank_word hword, Text.afterBlank_word hword, hmnemonic]
      rfl
    | some o =>
      obtain ⟨ho, htrimmed⟩ := h.operands o rfl
      have hoperands : present? o.toList = some o := present?_eq_some_iff.mpr ⟨ho, rfl⟩
      have hshown : shown ⟨index, address, some m, some o⟩ =
          ' ' :: (m.toList ++ ' ' :: o.toList) := rfl
      rw [ofText, hshown, Option.getD_some, String.toList_ofList,
        Text.trim_blank_cons Text.isBlank_space, (htrimmed.word_append hword hm ho).trim,
        Text.beforeBlank_word_append hword ' ' rfl, Text.afterBlank_word_append hword ' ' rfl,
        htrimmed.trim, hmnemonic, hoperands]

/-- An instruction that was read has a mnemonic of one word and trimmed operands behind it, or lacks
operands, or both. Displayed, it gives the same instruction again from what stands behind the first
colon. -/
theorem ofText_display (index : ℕ) (address : UInt64) (text? : Option String) :
    (ofText index address text?).IsNormal ∧
      ∃ front back, (ofText index address text?).display.toList = front ++ ':' :: back ∧
        ':' ∉ front ∧
        ofText index address (some (String.ofList back)) = ofText index address text? :=
  have hnormal := isNormal_ofText index address text?
  ⟨hnormal, _, _, display_eq _, colon_not_mem_numeral _, ofText_shown hnormal⟩

end Instruction

end JumpArrows
