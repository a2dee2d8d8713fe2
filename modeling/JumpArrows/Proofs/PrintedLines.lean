import JumpArrows.Listing.Block
import JumpArrows.Proofs.Numerals
import JumpArrows.Proofs.Words

/-! # Lines of a routine as they are printed

A disassembler prints a routine as a header and one line per instruction. Each of these lines is
read back here by itself: the header with its address and label, an instruction with its address
and text, and from the text of a jump the address that it leads to. -/

namespace JumpArrows

namespace Print

def head (base : UInt64) (label : List Char) : List Char :=
  Hex.padded 16 base.toNat ++ [' ', '<'] ++ label ++ ['>', ':']

/-- The line of an instruction: its address, one byte, and its text. -/
def line (address : UInt64) (text : List Char) : List Char :=
  [' ', ' ', ' ', ' '] ++ Hex.numeral address.toNat ++ [':', '\t', '0', '0', '\t'] ++ text

/-- The text of a jump, with a name behind its target. -/
def jump (target : UInt64) (symbol : List Char) : List Char :=
  ['j', 'm', 'p', ' '] ++ Hex.numeral target.toNat ++ [' ', '<'] ++ symbol ++ ['>']

def idle : List Char :=
  ['n', 'o', 'p']

end Print

/-! ## Heads -/

namespace Head

/-- Behind the digits of a header comes a space. -/
theorem header?_of_no_space {head : List Char} (h : ' ' ∉ head) : header? head = none := by
  rw [header?]
  dsimp only
  split_ifs
  · split
    next rest hrest =>
      have hmem : ' ' ∈ head.drop 16 := by simp [hrest]
      exact absurd (List.mem_of_mem_drop hmem) h
    next => rfl
  · rfl

theorem header?_append {digits label : List Char} (hlength : digits.length = 16)
    (hdigits : ∀ c ∈ digits, Hex.isLowerDigit c = true) (hlabel : '>' ∉ label)
    (rest : List Char) :
    header? (digits ++ ' ' :: '<' :: (label ++ '>' :: rest)) = some ⟨digits, label⟩ := by
  have htake : (digits ++ ' ' :: '<' :: (label ++ '>' :: rest)).take 16 = digits := by
    rw [← hlength, List.take_left]
  have hdrop : (digits ++ ' ' :: '<' :: (label ++ '>' :: rest)).drop 16 =
      ' ' :: '<' :: (label ++ '>' :: rest) := by
    rw [← hlength, List.drop_left]
  have hname : (label ++ '>' :: rest).takeWhile (· ≠ '>') = label := by
    rw [List.takeWhile_append_of_pos]
    · simp
    · intro c hc
      exact decide_eq_true fun hgt => hlabel (hgt ▸ hc)
  rw [header?]
  simp only [htake, hdrop, hname]
  rw [if_pos ⟨hlength, List.all_eq_true.mpr hdigits⟩, if_pos]
  simp

theorem address?_append {digits : List Char} (hlength : 4 ≤ digits.length)
    (hdigits : ∀ c ∈ digits, Hex.isLowerDigit c = true) (rest : List Char) :
    address? (digits ++ ':' :: rest) = some digits := by
  have htake : (digits ++ ':' :: rest).takeWhile Hex.isLowerDigit = digits := by
    rw [List.takeWhile_append_of_pos hdigits, List.takeWhile_cons_of_neg (by decide),
      List.append_nil]
  rw [address?]
  simp only [htake, List.drop_left]
  rw [if_pos ⟨hlength, rfl⟩]

end Head

namespace Record

theorem Kind.ofHead_head (base : UInt64) {label : List Char} (h : '>' ∉ label) :
    Kind.ofHead (Print.head base label) = .header base (String.ofList label) := by
  have hlength := Hex.length_padded (Hex.length_numeral_word_le base)
  have hheader := Head.header?_append hlength (fun c => Hex.isLowerDigit_of_mem_padded) h [':']
  have hshape : Print.head base label =
      Hex.padded 16 base.toNat ++ ' ' :: '<' :: (label ++ '>' :: [':']) := by
    simp [Print.head]
  rw [Kind.ofHead, hshape, hheader]
  simp [Hex.value_padded, Hex.word?_toNat]

theorem Kind.ofHead_address {address : UInt64} (h : 0x1000 ≤ address) :
    Kind.ofHead (Hex.numeral address.toNat ++ [':']) = .instruction address := by
  have hspace : ' ' ∉ Hex.numeral address.toNat ++ [':'] := by
    simp [Hex.not_mem_numeral]
  have hfour : 4 ≤ (Hex.numeral address.toNat).length := by
    by_contra hlt
    have hshort : (Hex.numeral address.toNat).length ≤ 3 := by omega
    have hsmall := (Hex.length_numeral_le_iff (by omega)).mp hshort
    have hlarge : 0x1000 ≤ address.toNat := UInt64.le_iff_toNat_le.mp h
    omega
  have haddress := Head.address?_append hfour (fun c => Hex.isLowerDigit_of_mem_numeral) []
  rw [Kind.ofHead, Head.header?_of_no_space hspace, haddress]
  simp [Hex.value_numeral, Hex.word?_toNat]

/-- A line that is one field. -/
theorem ofLine_of_isField {s : List Char} (h : Text.IsField s) :
    ofLine s = ⟨[String.ofList s], String.ofList s⟩ := by
  rw [ofLine, Text.dropEndWhile_of_getLast h.last_not_lineEnd,
    List.splitOn_eq_singleton h.tab, List.map_singleton, h.trim]

theorem isField_head (base : UInt64) {label : List Char} (h : '\t' ∉ label) :
    Text.IsField (Print.head base label) where
  tab := by simp [Print.head, h, Hex.not_mem_padded]
  head := by
    intro c hc
    have hne : Hex.padded 16 base.toNat ≠ [] := by
      rw [← List.length_pos_iff, Hex.length_padded (Hex.length_numeral_word_le base)]
      decide
    simp only [Print.head, List.append_assoc, List.head?_append_of_ne_nil _ hne] at hc
    exact (Hex.plain_of_mem_padded (List.mem_of_mem_head? hc)).blank
  last := by
    rw [Print.head, List.append_cons]
    exact Text.last_concat rfl _

theorem kind_head (base : UInt64) {label : List Char} (hangle : '>' ∉ label) (htab : '\t' ∉ label) :
    (ofLine (Print.head base label)).kind = .header base (String.ofList label) := by
  rw [ofLine_of_isField (isField_head base htab)]
  simp [kind, Kind.ofHead_head base hangle]

theorem isField_address (address : UInt64) :
    Text.IsField (Hex.numeral address.toNat ++ [':']) where
  tab := by simp [Hex.not_mem_numeral]
  head := Hex.head_numeral_append _ _
  last := Text.last_concat rfl _

theorem fields_line (address : UInt64) {text : List Char} (h : Text.IsField text)
    (hne : text ≠ []) :
    (ofLine (Print.line address text)).fields =
      [String.ofList (Hex.numeral address.toNat ++ [':']), String.ofList ['0', '0'],
        String.ofList text] := by
  have hlast : ∀ c ∈ (Print.line address text).getLast?, Text.isLineEnd c = false := by
    intro c hc
    rw [Print.line, List.getLast?_append_of_ne_nil _ hne] at hc
    exact h.last_not_lineEnd c hc
  have hshape : Print.line address text =
      (' ' :: ' ' :: ' ' :: ' ' :: (Hex.numeral address.toNat ++ [':'])) ++
        '\t' :: (['0', '0'] ++ '\t' :: text) := by
    simp [Print.line]
  have haddress := isField_address address
  have hfirst : '\t' ∉ ' ' :: ' ' :: ' ' :: ' ' :: (Hex.numeral address.toNat ++ [':']) := by
    simp only [List.mem_cons, haddress.tab, or_false]
    decide
  have hbyte : Text.trim ['0', '0'] = ['0', '0'] := rfl
  rw [ofLine, Text.dropEndWhile_of_getLast hlast, hshape,
    List.splitOn_append_cons_self_of_not_mem hfirst,
    List.splitOn_append_cons_self_of_not_mem (by decide), List.splitOn_eq_singleton h.tab]
  simp only [List.map_cons, List.map_nil, h.trim, hbyte,
    Text.trim_blank_cons Text.isBlank_space, haddress.trim]

theorem kind_line {address : UInt64} (haddress : 0x1000 ≤ address) {text : List Char}
    (h : Text.IsField text) (hne : text ≠ []) :
    (ofLine (Print.line address text)).kind = .instruction address := by
  rw [kind, fields_line address h hne]
  simp [Kind.ofHead_address haddress]

theorem text?_line (address : UInt64) {text : List Char} (h : Text.IsField text)
    (hne : text ≠ []) :
    (ofLine (Print.line address text)).text? = some (String.ofList text) := by
  have hblank : Text.isBlankText text = false := by
    obtain ⟨c, rest, rfl⟩ := List.exists_cons_of_ne_nil hne
    simp [Text.isBlankText, h.head c rfl]
  rw [text?, fields_line address h hne]
  simp [hblank]

theorem kind_blank : (ofLine []).kind = .other := by
  decide

end Record

/-! ## Texts of instructions -/

namespace Print

theorem isField_idle : Text.IsField idle where
  tab := by decide
  head := Text.head_cons rfl _
  last := Text.last_concat rfl ['n', 'o']

theorem isField_jump (target : UInt64) {symbol : List Char} (h : '\t' ∉ symbol) :
    Text.IsField (jump target symbol) where
  tab := by simp [jump, h, Hex.not_mem_numeral]
  head := Text.head_cons rfl _
  last := Text.last_concat rfl _

end Print

namespace Instruction

theorem target?_idle (index : ℕ) (address : UInt64) :
    (ofText index address (some (String.ofList Print.idle))).target? {} = none := by
  rfl

/-- What stands behind the mnemonic of a jump. -/
theorem literalOf?_operands (target : UInt64) (symbol : List Char) :
    literalOf? (Hex.numeral target.toNat ++ ' ' :: '<' :: (symbol ++ ['>'])) = some target := by
  have hplain : ∀ c ∈ Hex.numeral target.toNat, Hex.Plain c := fun c => Hex.plain_of_mem_numeral
  have hcomma : (Hex.numeral target.toNat).takeWhile (· ≠ ',') = Hex.numeral target.toNat := by
    rw [List.takeWhile_eq_self_iff]
    exact fun c hc => decide_eq_true (hplain c hc).comma
  rw [literalOf?, Text.firstWord_append (fun c hc => (hplain c hc).blank) (Hex.numeral_ne_nil _) ' '
    rfl, hcomma, Hex.literal?_numeral]

theorem trim_operands (target : UInt64) (symbol : List Char) :
    Text.trim (Hex.numeral target.toNat ++ ' ' :: '<' :: (symbol ++ ['>'])) =
      Hex.numeral target.toNat ++ ' ' :: '<' :: (symbol ++ ['>']) := by
  apply Text.trim_of_ends
  · exact Hex.head_numeral_append _ _
  · rw [← List.cons_append, ← List.cons_append, ← List.append_assoc]
    exact Text.last_concat rfl _

theorem target?_jump (index : ℕ) (address target : UInt64) {symbol : List Char}
    (h : '\t' ∉ symbol) :
    (ofText index address (some (String.ofList (Print.jump target symbol)))).target? {} =
      some target := by
  have hshape : Print.jump target symbol =
      ['j', 'm', 'p'] ++ ' ' :: (Hex.numeral target.toNat ++ ' ' :: '<' :: (symbol ++ ['>'])) := by
    simp [Print.jump]
  have hword : ∀ c ∈ ['j', 'm', 'p'], Text.isBlank c = false := by
    simp [Text.isBlank]
  have hmnemonic : Text.beforeBlank (Print.jump target symbol) = ['j', 'm', 'p'] := by
    rw [hshape, Text.beforeBlank_word_append hword ' ' rfl]
  have hoperands : Text.trim (Text.afterBlank (Print.jump target symbol)) =
      Hex.numeral target.toNat ++ ' ' :: '<' :: (symbol ++ ['>']) := by
    rw [hshape, Text.afterBlank_word_append hword ' ' rfl, trim_operands]
  have hjumps : ({} : Config).isJump (String.ofList ['j', 'm', 'p']) = true := rfl
  have hliteral := literalOf?_operands target symbol
  rw [ofText]
  simp [(Print.isField_jump target h).trim, hmnemonic, hoperands, present?, target?, literal?,
    hjumps, hliteral]

end Instruction

end JumpArrows
