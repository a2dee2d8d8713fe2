import JumpArrows.Proofs.PrintedLines
import JumpArrows.Proofs.SpelledNumerals

/-! # The grammar of heads

What the first field of a line may announce, told without the reader: a header, an instruction, or
neither. The reader finds just that, since the two grammars have no head in common. -/

namespace JumpArrows

/-- Where a run does not reach the end of the text, it stops at a character of another kind. -/
theorem Text.exists_of_takeWhile_lt {p : Char → Bool} {s : List Char}
    (h : (s.takeWhile p).length < s.length) :
    ∃ c rest, p c = false ∧ s = s.takeWhile p ++ c :: rest := by
  obtain ⟨rest, hs, -, hrest⟩ := takeWhile_eq_iff.mp (rfl : s.takeWhile p = _)
  cases rest with
  | nil =>
    rw [List.append_nil] at hs
    exact absurd (congrArg List.length hs) (Nat.ne_of_gt h)
  | cons c rest => exact ⟨c, rest, hrest c rfl, hs⟩

namespace Head

/-- The heads of headers: an address of sixteen digits, a space, and a label in angle brackets. -/
inductive IsHeader : List Char → UInt64 → List Char → Prop where
  | intro {digits label : List Char} {address : UInt64} (hlength : digits.length = 16)
    (hdigits : Hex.Spells Hex.IsSmall digits address.toNat) (hlabel : '>' ∉ label)
    (rest : List Char) : IsHeader (digits ++ ' ' :: '<' :: (label ++ '>' :: rest)) address label

/-- The heads of instructions: an address of four digits or more, which fits into a word, and a
colon. -/
inductive IsInstruction : List Char → UInt64 → Prop where
  | intro {digits : List Char} {address : UInt64} (hlength : 4 ≤ digits.length)
    (hdigits : Hex.Spells Hex.IsSmall digits address.toNat) (rest : List Char) :
    IsInstruction (digits ++ ':' :: rest) address

variable {head label : List Char} {address : UInt64}

theorem dropWhile_digits {digits : List Char} {n : ℕ} (h : Hex.Spells Hex.IsSmall digits n)
    {c : Char} (hc : Hex.isLowerDigit c = false) (rest : List Char) :
    (digits ++ c :: rest).dropWhile Hex.isLowerDigit = c :: rest := by
  apply Text.dropWhile_run_append (Hex.spells_small_iff.mp h).1
  simpa using hc

/-- Behind the run of digits at its front, a header has a space and an instruction a colon. -/
theorem IsHeader.not_isInstruction (h : IsHeader head address label) (address' : UInt64) :
    ¬ IsInstruction head address' := by
  obtain ⟨-, hdigits, -, rest⟩ := h
  have hspace := dropWhile_digits hdigits (by decide : Hex.isLowerDigit ' ' = false)
  intro h'
  generalize hhead : _ ++ ' ' :: _ = head at h'
  obtain ⟨-, hdigits', rest'⟩ := h'
  have hcolon := dropWhile_digits hdigits' (by decide : Hex.isLowerDigit ':' = false) rest'
  rw [← hhead, hspace] at hcolon
  simp at hcolon

/-! ## Reading a header -/

theorem exists_of_header? {h : Header} (hread : header? head = some h) :
    h.digits.length = 16 ∧ (∀ c ∈ h.digits, Hex.isLowerDigit c = true) ∧ '>' ∉ h.label ∧
      ∃ rest, head = h.digits ++ ' ' :: '<' :: (h.label ++ '>' :: rest) := by
  rw [header?] at hread
  dsimp only at hread
  split at hread
  case isFalse => cases hread
  case isTrue hdigits =>
    split at hread
    case h_2 => cases hread
    case h_1 rest hrest =>
      split at hread
      case isFalse => cases hread
      case isTrue hlt =>
        cases hread
        obtain ⟨c, more, hc, hmore⟩ := Text.exists_of_takeWhile_lt hlt
        obtain rfl : c = '>' := by simpa using hc
        refine ⟨hdigits.1, List.all_eq_true.mp hdigits.2, ?_, more, ?_⟩
        · intro hmem
          have hne := List.mem_takeWhile_imp hmem
          simp at hne
        · rw [← hmore, ← hrest, List.take_append_drop]

theorem read_header_iff :
    ((header? head).bind fun h => (Hex.word? (Hex.value h.digits)).map (·, h.label)) =
      some (address, label) ↔ IsHeader head address label := by
  constructor
  · intro hread
    obtain ⟨h, hh, hword⟩ := Option.bind_eq_some_iff.mp hread
    obtain ⟨a, ha, heq⟩ := Option.map_eq_some_iff.mp hword
    cases heq
    obtain ⟨hlength, hlower, hlabel, rest, rfl⟩ := exists_of_header? hh
    have hvalue := Hex.word?_eq_some_iff.mp ha
    exact .intro hlength (Hex.spells_small_iff.mpr ⟨hlower, hvalue.symm⟩) hlabel rest
  · rintro ⟨hlength, hdigits, hlabel, rest⟩
    obtain ⟨hlower, hvalue⟩ := Hex.spells_small_iff.mp hdigits
    rw [header?_append hlength hlower hlabel, Option.bind_some, hvalue, Hex.word?_toNat,
      Option.map_some]

/-! ## Reading an address -/

theorem exists_of_address? {digits : List Char} (hread : address? head = some digits) :
    4 ≤ digits.length ∧ (∀ c ∈ digits, Hex.isLowerDigit c = true) ∧
      ∃ rest, head = digits ++ ':' :: rest := by
  rw [address?] at hread
  split at hread
  case isFalse => cases hread
  case isTrue h =>
    cases hread
    obtain ⟨rest, hrest⟩ := List.head?_eq_some_iff.mp h.2
    refine ⟨h.1, fun c hc => List.mem_takeWhile_imp hc, rest, ?_⟩
    rw [← hrest]
    exact (List.prefix_iff_eq_append.mp (List.takeWhile_prefix _)).symm

theorem read_address_iff :
    ((address? head).bind fun digits => Hex.word? (Hex.value digits)) = some address ↔
      IsInstruction head address := by
  constructor
  · intro hread
    obtain ⟨digits, hdigits, ha⟩ := Option.bind_eq_some_iff.mp hread
    obtain ⟨hlength, hlower, rest, rfl⟩ := exists_of_address? hdigits
    have hvalue := Hex.word?_eq_some_iff.mp ha
    exact .intro hlength (Hex.spells_small_iff.mpr ⟨hlower, hvalue.symm⟩) rest
  · rintro ⟨hlength, hdigits, rest⟩
    obtain ⟨hlower, hvalue⟩ := Hex.spells_small_iff.mp hdigits
    rw [address?_append hlength hlower, Option.bind_some, hvalue, Hex.word?_toNat]

end Head

/-! ## Kinds -/

namespace Record

variable {head : List Char} {address : UInt64}

theorem Kind.ofHead_eq_header_iff {label : String} :
    ofHead head = .header address label ↔ Head.IsHeader head address label.toList := by
  rw [← Head.read_header_iff, ofHead]
  split
  case h_1 address' label' hread =>
    rw [hread, Option.some.injEq, Prod.mk.injEq, header.injEq]
    refine and_congr_right fun _ => ⟨?_, ?_⟩
    · rintro rfl
      exact String.toList_ofList.symm
    · rintro rfl
      exact String.ofList_toList
  case h_2 hnone =>
    rw [hnone]
    split <;> simp

theorem Kind.ofHead_eq_instruction_iff :
    ofHead head = .instruction address ↔ Head.IsInstruction head address := by
  rw [ofHead]
  split
  case h_1 address' label' hread =>
    have hheader := Head.read_header_iff.mp hread
    simp [hheader.not_isInstruction]
  case h_2 =>
    rw [← Head.read_address_iff]
    split
    case h_1 address' hread => rw [hread, instruction.injEq, Option.some.injEq]
    case h_2 hnone => simp [hnone]

theorem Kind.ofHead_eq_other_iff :
    ofHead head = .other ↔
      (∀ address label, ¬ Head.IsHeader head address label) ∧
        ∀ address, ¬ Head.IsInstruction head address := by
  constructor
  · intro hother
    refine ⟨fun address label h => ?_, fun address h => ?_⟩
    · rw [← String.toList_ofList (l := label), ← ofHead_eq_header_iff, hother] at h
      cases h
    · rw [← ofHead_eq_instruction_iff, hother] at h
      cases h
  · rintro ⟨hheader, hinstruction⟩
    cases hkind : ofHead head with
    | instruction address => exact absurd (ofHead_eq_instruction_iff.mp hkind) (hinstruction _)
    | header address label => exact absurd (ofHead_eq_header_iff.mp hkind) (hheader _ _)
    | other => rfl

theorem kind_of_field {record : Record} {head : String} (h : record.fields[0]? = some head) :
    record.kind = .ofHead head.toList := by
  rw [kind, List.head?_eq_getElem?, h]

theorem kind_of_no_field {record : Record} (h : record.fields[0]? = none) :
    record.kind = .other := by
  rw [kind, List.head?_eq_getElem?, h]

/-- A record is what its first field announces by the grammars of headers and instructions, of which
no text is in both. A record whose first field is in neither of them, or that has no field, is
another one. -/
theorem kind_announced (record : Record) :
    (∀ address label, record.kind = .header address label ↔
        ∃ head ∈ record.fields[0]?, Head.IsHeader head.toList address label.toList) ∧
      (∀ address, record.kind = .instruction address ↔
        ∃ head ∈ record.fields[0]?, Head.IsInstruction head.toList address) ∧
      (record.kind = .other ↔ ∀ head ∈ record.fields[0]?,
        (∀ address label, ¬ Head.IsHeader head.toList address label) ∧
          ∀ address, ¬ Head.IsInstruction head.toList address) ∧
      ∀ head address label address',
        ¬ (Head.IsHeader head address label ∧ Head.IsInstruction head address') := by
  have hapart : ∀ head address label address',
      ¬ (Head.IsHeader head address label ∧ Head.IsInstruction head address') :=
    fun head address label address' h => h.1.not_isInstruction address' h.2
  cases hfield : record.fields[0]? with
  | none =>
    rw [kind_of_no_field hfield]
    simpa using hapart
  | some head =>
    rw [kind_of_field hfield]
    simp only [Option.mem_some_iff, exists_eq_left', forall_eq']
    exact ⟨fun _ _ => Kind.ofHead_eq_header_iff, fun _ => Kind.ofHead_eq_instruction_iff,
      Kind.ofHead_eq_other_iff, hapart⟩

example : Kind.ofHead "00000000000000001000:".toList = .instruction 0x1000 ∧
    Kind.ofHead "11112222333344445:".toList = .other := by
  decide

end Record

end JumpArrows
