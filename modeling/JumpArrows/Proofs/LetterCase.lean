import JumpArrows.Proofs.Interference

/-! # Letters of either case

Making the ASCII capitals of an instruction's text small changes no white space, no comma, no mark,
and no digit but for its case. So every cut through the text comes where it came, literals have the
values that they had, and mnemonics begin as they did if the prefixes are made small with them. All
other characters are left alone. -/

namespace JumpArrows

namespace Text

def lower (s : List Char) : List Char :=
  s.map Char.toLower

/-- The text with its ASCII capitals made small. Two texts that differ at most in the case of ASCII
letters, and only such texts, have this in common. -/
def caseless (s : String) : String :=
  String.ofList (lower s.toList)

@[simp] theorem toList_caseless (s : String) : (caseless s).toList = lower s.toList :=
  String.toList_ofList

/-! ## Characters -/

theorem toNat_toLower (c : Char) :
    c.toLower.toNat = if 65 ≤ c.toNat ∧ c.toNat ≤ 90 then c.toNat + 32 else c.toNat := by
  delta Char.toLower
  split
  case isTrue h =>
    have hcode : 65 ≤ c.val.toNat ∧ c.val.toNat ≤ 90 := h
    have hsum : (c.val + 32).toNat = (c.val.toNat + 32) % 2 ^ 32 := UInt32.toNat_add _ _
    have hsmall : (c.val + 32).toNat = c.val.toNat + 32 := by omega
    exact hsmall.trans (if_pos hcode).symm
  case isFalse h => exact (if_neg h).symm

theorem toNat_toUpper (c : Char) :
    c.toUpper.toNat = if 97 ≤ c.toNat ∧ c.toNat ≤ 122 then c.toNat - 32 else c.toNat := by
  delta Char.toUpper
  split
  case isTrue h =>
    have hcode : 97 ≤ c.val.toNat ∧ c.val.toNat ≤ 122 := h
    -- the distance to the capitals is added modulo the size of a word
    have hsum : (c.val + (65 - 97)).toNat = (c.val.toNat + (2 ^ 32 - 32)) % 2 ^ 32 :=
      UInt32.toNat_add _ _
    have hcapital : (c.val + (65 - 97)).toNat = c.val.toNat - 32 := by omega
    exact hcapital.trans (if_pos hcode).symm
  case isFalse h => exact (if_neg h).symm

@[simp] theorem toLower_toLower (c : Char) : c.toLower.toLower = c.toLower := by
  rw [← Char.toNat_inj, toNat_toLower, toNat_toLower]
  split_ifs <;> omega

/-- Only letters become letters. -/
theorem toLower_eq_iff_of_no_letter {c d : Char} (hd : d.toNat < 65 ∨ 122 < d.toNat) :
    c.toLower = d ↔ c = d := by
  rw [← Char.toNat_inj, ← Char.toNat_inj, toNat_toLower]
  split_ifs <;> omega

theorem toLower_eq_small_x_iff {c : Char} : c.toLower = 'x' ↔ c = 'x' ∨ c = 'X' := by
  have hsmall : 'x'.toNat = 120 := rfl
  have hcapital : 'X'.toNat = 88 := rfl
  rw [← Char.toNat_inj, ← Char.toNat_inj, ← Char.toNat_inj, toNat_toLower]
  split_ifs <;> omega

theorem toLower_ne_capital_x (c : Char) : c.toLower ≠ 'X' := by
  have hcapital : 'X'.toNat = 88 := rfl
  rw [ne_eq, ← Char.toNat_inj, toNat_toLower]
  split_ifs <;> omega

theorem isBlank_of_letter {c : Char} (h : 65 ≤ c.toNat) (h' : c.toNat ≤ 122) :
    isBlank c = false := by
  simp only [isBlank, Bool.or_eq_false_iff, Bool.and_eq_false_iff, decide_eq_false_iff_not,
    beq_eq_false_iff_ne]
  omega

@[simp] theorem isBlank_toLower (c : Char) : isBlank c.toLower = isBlank c := by
  have hcode := toNat_toLower c
  split_ifs at hcode with hcapital
  · rw [isBlank_of_letter (by omega) (by omega), isBlank_of_letter hcapital.1 (by omega)]
  · rw [Char.toNat_inj.mp hcode]

/-! ## Cuts -/

section Cuts

variable {p : Char → Bool} (hp : ∀ c, p c.toLower = p c) (s : List Char)

include hp

theorem dropWhile_lower : (lower s).dropWhile p = lower (s.dropWhile p) := by
  rw [lower, List.dropWhile_map, lower]
  congr 2
  funext c
  exact hp c

theorem takeWhile_lower : (lower s).takeWhile p = lower (s.takeWhile p) := by
  rw [lower, List.takeWhile_map, lower]
  congr 2
  funext c
  exact hp c

theorem dropEndWhile_lower : dropEndWhile p (lower s) = lower (dropEndWhile p s) := by
  have hreverse (t : List Char) : (lower t).reverse = lower t.reverse := List.map_reverse.symm
  rw [dropEndWhile, hreverse, dropWhile_lower hp, hreverse, dropEndWhile]

theorem all_lower : (lower s).all p = s.all p := by
  rw [lower, List.all_map]
  congr 1
  funext c
  exact hp c

end Cuts

variable (s : List Char)

theorem trim_lower : trim (lower s) = lower (trim s) := by
  rw [trim, dropWhile_lower isBlank_toLower, dropEndWhile_lower isBlank_toLower, trim]

theorem beforeBlank_lower : beforeBlank (lower s) = lower (beforeBlank s) :=
  takeWhile_lower (by simp) s

theorem afterBlank_lower : afterBlank (lower s) = lower (afterBlank s) := by
  rw [afterBlank, dropWhile_lower (by simp), afterBlank]
  exact List.map_tail.symm

theorem firstWord_lower : firstWord (lower s) = lower (firstWord s) := by
  rw [firstWord, dropWhile_lower isBlank_toLower, beforeBlank_lower, firstWord]

theorem isBlankText_lower : isBlankText (lower s) = isBlankText s :=
  all_lower isBlank_toLower s

end Text

/-! ## Literals -/

namespace Hex

open Text

@[simp] theorem digit?_toLower (c : Char) : digit? c.toLower = digit? c := by
  rw [digit?, toLower_toLower, digit?]

theorem value_lower (s : List Char) : value (lower s) = value s := by
  rw [value, lower, List.foldl_map]
  simp only [digit?_toLower]
  rfl

theorem dropMark_singleton (c : Char) : dropMark [c] = [c] := by
  rw [dropMark.eq_def]
  split <;> simp_all

theorem dropMark_cons_cons (c d : Char) (s : List Char) :
    dropMark (c :: d :: s) = if c = '0' ∧ (d = 'x' ∨ d = 'X') then s else c :: d :: s := by
  rw [dropMark.eq_def]
  split <;> simp_all

theorem dropMark_lower (s : List Char) : dropMark (lower s) = lower (dropMark s) := by
  match s with
  | [] => rfl
  | [c] =>
    change dropMark [c.toLower] = lower (dropMark [c])
    rw [dropMark_singleton, dropMark_singleton]
    rfl
  | c :: d :: s =>
    have hmark : c.toLower = '0' ∧ (d.toLower = 'x' ∨ d.toLower = 'X') ↔
        c = '0' ∧ (d = 'x' ∨ d = 'X') := by
      rw [toLower_eq_iff_of_no_letter (by decide), toLower_eq_small_x_iff,
        or_iff_left (toLower_ne_capital_x d)]
    change dropMark (c.toLower :: d.toLower :: lower s) = _
    rw [dropMark_cons_cons, dropMark_cons_cons, if_congr hmark rfl rfl]
    split_ifs <;> rfl

theorem literal?_lower (s : List Char) : literal? (lower s) = literal? s := by
  have hdigit : ∀ c : Char, isDigit c.toLower = isDigit c := by simp [isDigit]
  have hnil : lower (dropMark s) ≠ [] ↔ dropMark s ≠ [] := by simp [lower]
  have hlength : (lower (dropMark s)).length = (dropMark s).length := List.length_map _
  simp only [literal?, dropMark_lower, value_lower, all_lower hdigit, hnil, hlength]

end Hex

/-! ## Instructions -/

def Config.caseless (config : Config) : Config :=
  { config with jumpPrefixes := config.jumpPrefixes.map Text.caseless }

theorem Config.isJump_caseless (config : Config) (mnemonic : String) :
    config.caseless.isJump (Text.caseless mnemonic) = config.isJump mnemonic := by
  have hlower (s : String) :
      (Text.caseless s).toList.map Char.toLower = s.toList.map Char.toLower := by
    simp [Text.lower, Function.comp_def]
  simp only [isJump, caseless, List.any_map, Function.comp_def, hlower]

namespace Instruction

def caseless (i : Instruction) : Instruction :=
  { i with mnemonic := i.mnemonic.map Text.caseless, operands := i.operands.map Text.caseless }

theorem present?_lower (s : List Char) :
    present? (Text.lower s) = (present? s).map Text.caseless := by
  cases s with
  | nil => rfl
  | cons c s =>
    change some (String.ofList (Text.lower (c :: s))) =
      some (Text.caseless (String.ofList (c :: s)))
    rw [Text.caseless, String.toList_ofList]

theorem ofText_caseless (index : ℕ) (address : UInt64) (text? : Option String) :
    ofText index address (text?.map Text.caseless) = (ofText index address text?).caseless := by
  have htext : ((text?.map Text.caseless).getD "").toList = Text.lower (text?.getD "").toList := by
    cases text? with
    | none => rfl
    | some text => exact Text.toList_caseless text
  simp only [ofText, caseless, htext, Text.trim_lower, Text.beforeBlank_lower,
    Text.afterBlank_lower, present?_lower]

theorem literalOf?_lower (operands : List Char) :
    literalOf? (Text.lower operands) = literalOf? operands := by
  have hcomma (c : Char) : decide (c.toLower ≠ ',') = decide (c ≠ ',') := by
    rw [decide_eq_decide, ne_eq, Text.toLower_eq_iff_of_no_letter (by decide)]
  rw [literalOf?, Text.firstWord_lower, Text.takeWhile_lower hcomma, Hex.literal?_lower, literalOf?]

/-- Whether an instruction jumps, and where to, does not depend on letter case. -/
theorem target?_caseless (config : Config) (i : Instruction) :
    i.caseless.target? config.caseless = i.target? config := by
  have hjump : i.caseless.mnemonic.any config.caseless.isJump = i.mnemonic.any config.isJump := by
    rw [caseless]
    cases i.mnemonic with
    | none => rfl
    | some mnemonic => exact config.isJump_caseless mnemonic
  have hliteral : i.caseless.literal? = i.literal? := by
    rw [literal?, caseless, literal?]
    cases i.operands with
    | none => rfl
    | some operands =>
      rw [Option.map_some, Option.bind_some, Option.bind_some, Text.toList_caseless,
        literalOf?_lower]
  rw [target?, hjump, hliteral, target?]

end Instruction

end JumpArrows
