import JumpArrows.Proofs.SpelledNumerals
import JumpArrows.Proofs.Words
import Mathlib.Data.List.TakeWhile

/-! # The grammar of literal operands

The literal in front of an operand text, told without the reader: the first word of the text, up to
its first comma, is a mark or none and one to sixteen digits. So every word is read from each of its
spellings, and a literal never has a value that no word holds. -/

namespace JumpArrows

/-! ## Words and parts -/

namespace Text

/-- The first word of a text, with white space in front of it and white space or nothing behind. -/
inductive IsFirstWord : List Char → List Char → Prop where
  | intro {blanks word rest : List Char} (hblanks : ∀ c ∈ blanks, isBlank c = true)
    (hne : word ≠ []) (hword : ∀ c ∈ word, isBlank c = false)
    (hrest : ∀ c ∈ rest.head?, isBlank c = true) : IsFirstWord (blanks ++ (word ++ rest)) word

/-- What stands in front of the first comma, which is all if there is none. -/
inductive IsFirstPart : List Char → List Char → Prop where
  | intro {part rest : List Char} (hpart : ',' ∉ part) (hrest : ∀ c ∈ rest.head?, c = ',') :
    IsFirstPart (part ++ rest) part

variable {s word part : List Char}

theorem isFirstWord_iff (hne : word ≠ []) : IsFirstWord s word ↔ firstWord s = word := by
  rw [firstWord, beforeBlank, takeWhile_eq_iff]
  constructor
  · rintro ⟨hblanks, -, hword, hrest⟩
    refine ⟨_, dropWhile_run_append hblanks fun c hc => ?_, by simpa using hword,
      by simpa using hrest⟩
    rw [List.head?_append_of_ne_nil _ hne] at hc
    exact hword c (List.mem_of_mem_head? hc)
  · rintro ⟨rest, hs, hword, hrest⟩
    rw [← List.takeWhile_append_dropWhile (p := isBlank) (l := s), hs]
    exact .intro (fun c hc => List.mem_takeWhile_imp hc) hne (by simpa using hword)
      (by simpa using hrest)

theorem isFirstPart_iff : IsFirstPart s part ↔ s.takeWhile (· ≠ ',') = part := by
  rw [takeWhile_eq_iff]
  constructor
  · rintro ⟨hpart, hrest⟩
    exact ⟨_, rfl, fun c hc => decide_eq_true fun hcomma => hpart (hcomma ▸ hc),
      by simpa using hrest⟩
  · rintro ⟨rest, rfl, hpart, hrest⟩
    apply IsFirstPart.intro
    · intro hmem
      simpa using hpart ',' hmem
    · simpa using hrest

end Text

/-! ## Literals -/

namespace Hex

inductive IsMark : List Char → Prop where
  | absent : IsMark []
  | small : IsMark ['0', 'x']
  | capital : IsMark ['0', 'X']

inductive IsLiteral : List Char → UInt64 → Prop where
  | intro {mark digits : List Char} {v : UInt64} (hmark : IsMark mark) (hne : digits ≠ [])
    (hlength : digits.length ≤ 16) (hdigits : Spells IsEither digits v.toNat) :
    IsLiteral (mark ++ digits) v

variable {s mark digits : List Char} {v : UInt64}

theorem exists_mark (s : List Char) : ∃ mark, IsMark mark ∧ mark ++ dropMark s = s := by
  rw [dropMark.eq_def]
  split
  · exact ⟨_, .small, rfl⟩
  · exact ⟨_, .capital, rfl⟩
  · exact ⟨_, .absent, rfl⟩

theorem IsMark.dropMark_append (hmark : IsMark mark) (h : ∀ c ∈ digits, isDigit c = true) :
    dropMark (mark ++ digits) = digits := by
  cases hmark with
  | absent => exact dropMark_of_digits h
  | small => rfl
  | capital => rfl

theorem literal?_eq_some_iff : literal? s = some v ↔ IsLiteral s v := by
  constructor
  · intro h
    obtain ⟨mark, hmark, hs⟩ := exists_mark s
    rw [literal?] at h
    split at h
    case isFalse => cases h
    case isTrue hdigits =>
      rw [← hs]
      refine .intro hmark hdigits.1 hdigits.2.1 (spells_either_iff.mpr ⟨?_, ?_⟩)
      · exact List.all_eq_true.mp hdigits.2.2
      · exact (word?_eq_some_iff.mp h).symm
  · rintro ⟨hmark, hne, hlength, hdigits⟩
    obtain ⟨hall, hvalue⟩ := spells_either_iff.mp hdigits
    rw [literal?, hmark.dropMark_append hall,
      if_pos ⟨hne, hlength, List.all_eq_true.mpr hall⟩, hvalue, word?_toNat]

/-! ## Spellings of a word -/

theorem isDigit_toLower (c : Char) : isDigit c.toLower = isDigit c := by
  rw [isDigit, digit?_toLower, isDigit]

/-- A digit is none of the characters that operands are cut at. -/
theorem not_cut_of_isDigit {c : Char} (h : isDigit c = true) :
    Text.isBlank c = false ∧ c ≠ ',' := by
  obtain ⟨d, hd, hc⟩ := isDigit_iff.mp h
  have hlower : isLowerDigit c.toLower = true := by
    rw [(Text.toLower_eq_iff (toLower_digitChar d hd)).mpr hc]
    exact (digitChar_spec d hd).2
  have hplain := digits_plain _ (mem_digits_of_isLowerDigit hlower)
  refine ⟨by simpa using hplain.blank, ?_⟩
  rintro rfl
  exact hplain.comma rfl

theorem IsMark.not_cut (h : IsMark mark) {c : Char} (hc : c ∈ mark) :
    Text.isBlank c = false ∧ c ≠ ',' := by
  cases h with
  | absent => cases hc
  | small => rcases (by simpa using hc : c = '0' ∨ c = 'x') with rfl | rfl <;> decide
  | capital => rcases (by simpa using hc : c = '0' ∨ c = 'X') with rfl | rfl <;> decide

theorem IsLiteral.not_cut (h : IsLiteral s v) {c : Char} (hc : c ∈ s) :
    Text.isBlank c = false ∧ c ≠ ',' := by
  obtain ⟨hmark, -, -, hdigits⟩ := h
  rcases List.mem_append.mp hc with hc | hc
  · exact hmark.not_cut hc
  · exact not_cut_of_isDigit ((spells_either_iff.mp hdigits).1 c hc)

theorem IsLiteral.ne_nil (h : IsLiteral s v) : s ≠ [] := by
  obtain ⟨-, hne, -, -⟩ := h
  exact List.append_ne_nil_of_right_ne_nil _ hne

/-- The numeral of a word in letters of either case, with zeros in front up to a width of sixteen
and any mark, is a literal for that word. -/
theorem isLiteral_of_padded {width : ℕ} (hwidth : width ≤ 16) (hmark : IsMark mark)
    (h : Text.lower digits = padded width v.toNat) : IsLiteral (mark ++ digits) v := by
  have hlength : digits.length = (padded width v.toNat).length := by
    rw [← h, Text.lower, List.length_map]
  have hpadded : (padded width v.toNat).length = max width (numeral v.toNat).length :=
    List.length_leftpad
  have hnumeral := length_numeral_word_le v
  have hpos := List.length_pos_iff.mpr (numeral_ne_nil v.toNat)
  refine .intro hmark ?_ (by omega) (spells_either_iff.mpr ⟨fun c hc => ?_, ?_⟩)
  · rw [← List.length_pos_iff]
    omega
  · have hlower : c.toLower ∈ padded width v.toNat := h ▸ List.mem_map_of_mem hc
    rw [← isDigit_toLower]
    exact (plain_of_mem_padded hlower).digit
  · rw [← value_lower, h, value_padded]

end Hex

/-! ## Operands -/

namespace Instruction

variable {operands s rest : List Char} {v : UInt64}

theorem literalOf?_eq_some_iff :
    literalOf? operands = some v ↔
      ∃ word part, Text.IsFirstWord operands word ∧ Text.IsFirstPart word part ∧
        Hex.IsLiteral part v := by
  rw [literalOf?, Hex.literal?_eq_some_iff]
  constructor
  · intro h
    have hne : Text.firstWord operands ≠ [] := by
      intro hnil
      rw [hnil] at h
      exact h.ne_nil rfl
    exact ⟨_, _, (Text.isFirstWord_iff hne).mpr rfl, Text.isFirstPart_iff.mpr rfl, h⟩
  · rintro ⟨word, part, hword, hpart, h⟩
    have hne : word ≠ [] := by
      obtain ⟨-, hne, -, -⟩ := hword
      exact hne
    rwa [(Text.isFirstWord_iff hne).mp hword, Text.isFirstPart_iff.mp hpart]

/-- A literal is read if a comma or white space is behind it, or nothing. -/
theorem literalOf?_append (h : Hex.IsLiteral s v)
    (hrest : ∀ c ∈ rest.head?, c = ',' ∨ Text.isBlank c = true) :
    literalOf? (s ++ rest) = some v := by
  have hword : Text.firstWord (s ++ rest) = s ++ Text.beforeBlank rest := by
    rw [Text.firstWord, Text.dropWhile_of_head, Text.beforeBlank, List.takeWhile_append_of_pos,
      Text.beforeBlank]
    · intro c hc
      simpa using (h.not_cut hc).1
    · intro c hc
      rw [List.head?_append_of_ne_nil _ h.ne_nil] at hc
      exact (h.not_cut (List.mem_of_mem_head? hc)).1
  have hpart : (s ++ Text.beforeBlank rest).takeWhile (· ≠ ',') = s := by
    apply Text.takeWhile_run_append
    · exact fun c hc => decide_eq_true (h.not_cut hc).2
    · intro c hc
      rw [Text.beforeBlank, List.head?_takeWhile, Option.mem_filter_iff] at hc
      rcases hrest c hc.1 with rfl | hblank
      · rfl
      · simp [hblank] at hc
  rw [literalOf?, hword, hpart, Hex.literal?_eq_some_iff]
  exact h

/-- Operands are read as a word just if their first word, up to its first comma, is a literal for
it. So each spelling of a word is read as that word, whatever follows behind a comma or white space,
and up to sixteen digits always have a value that is a word. -/
theorem literal_of_operands :
    (∀ (i : Instruction) (v : UInt64), i.literal? = some v ↔
        ∃ operands ∈ i.operands, ∃ word part, Text.IsFirstWord operands.toList word ∧
          Text.IsFirstPart word part ∧ Hex.IsLiteral part v) ∧
      (∀ (i : Instruction) (v : UInt64) (width : ℕ) (mark digits rest : List Char),
        width ≤ 16 → Hex.IsMark mark → Text.lower digits = Hex.padded width v.toNat →
        (∀ c ∈ rest.head?, c = ',' ∨ Text.isBlank c = true) →
        i.operands = some (String.ofList (mark ++ digits ++ rest)) → i.literal? = some v) ∧
      ∀ digits : List Char, digits.length ≤ 16 →
        ∃ v, Hex.word? (Hex.value digits) = some v := by
  refine ⟨fun i v => ?_, fun i v width mark digits rest hwidth hmark hdigits hrest hi => ?_,
    fun digits => Hex.exists_word?⟩
  · simp only [literal?, Option.bind_eq_some_iff, literalOf?_eq_some_iff, Option.mem_def]
  · rw [literal?, hi, Option.bind_some, String.toList_ofList]
    exact literalOf?_append (Hex.isLiteral_of_padded hwidth hmark hdigits) hrest

theorem literal_of_operands_mixed :
    Text.lower "00000000DeadBeef".toList = Hex.padded 16 (0xdeadbeef : UInt64).toNat ∧
      literal? ⟨0, 0x1000, some "jmp", some "0X00000000DeadBeef,%rax <f>"⟩ = some 0xdeadbeef := by
  have hdigits : Text.lower "00000000DeadBeef".toList =
      Hex.padded 16 (0xdeadbeef : UInt64).toNat := by
    decide
  refine ⟨hdigits, ?_⟩
  exact literal_of_operands.2.1 _ 0xdeadbeef 16 ['0', 'X'] _ ",%rax <f>".toList (by decide) .capital
    hdigits (by simp) rfl

example : literalOf? "10000000000000000".toList = none := by
  decide

end Instruction

end JumpArrows
