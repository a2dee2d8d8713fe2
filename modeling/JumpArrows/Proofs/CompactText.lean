import JumpArrows.Json.Writer
import JumpArrows.Proofs.SpelledValues

/-! # Compact texts are read back

The compact text of a value is one of its spellings: every character is escaped as it may be, and
the numeral of a number has its value. So nothing is lost on the way through a text. -/

namespace JumpArrows.Json

/-! ## Strings -/

theorem hex_control : ∀ n < 0x20,
    ['0', '0', Nat.digitChar (n / 16), Nat.digitChar (n % 16)].all Hex.isDigit = true ∧
      Hex.value ['0', '0', Nat.digitChar (n / 16), Nat.digitChar (n % 16)] = n := by
  decide

theorem joinUnits_escaped {n : ℕ} (h : n < 0xD800) (us : List Unit16) :
    joinUnits (.escaped n :: us) = (joinUnits us).map (Char.ofNat n :: ·) := by
  rw [joinUnits.eq_def]
  dsimp only
  rw [if_neg (by omega), if_neg (by omega)]

/-- A character is written as a piece that stands for it. -/
theorem exists_unit_escape (c : Char) :
    ∃ u : Unit16, u.SpelledAs (escape c) ∧
      ∀ us, joinUnits (u :: us) = (joinUnits us).map (c :: ·) := by
  have hshort {e c : Char} (h : shortEscape? e = some c) : ∃ u : Unit16,
      u.SpelledAs ['\\', e] ∧ ∀ us, joinUnits (u :: us) = (joinUnits us).map (c :: ·) :=
    ⟨.char c, .short h, fun us => rfl⟩
  rw [escape]
  split_ifs with hquote hslash hback hfeed hline hreturn htab hcontrol
  · exact hshort (by rw [hquote]; rfl)
  · exact hshort (by rw [hslash]; rfl)
  · exact hshort (by rw [hback]; rfl)
  · exact hshort (by rw [hfeed]; rfl)
  · exact hshort (by rw [hline]; rfl)
  · exact hshort (by rw [hreturn]; rfl)
  · exact hshort (by rw [htab]; rfl)
  · obtain ⟨hdigits, hvalue⟩ := hex_control c.toNat hcontrol
    refine ⟨_, .hex hdigits, fun us => ?_⟩
    rw [hvalue, joinUnits_escaped (by omega), Char.ofNat_toNat]
  · exact ⟨.char c, .plain hquote hslash (by omega), fun us => rfl⟩

/-- A text is written as a row of pieces that stand for it. -/
theorem exists_units_writeString (s : List Char) :
    ∃ us, UnitsSpelledAs us (s.flatMap escape) ∧ joinUnits us = some s := by
  induction s with
  | nil => exact ⟨[], .nil, rfl⟩
  | cons c s ih =>
    obtain ⟨u, hu, hjoin⟩ := exists_unit_escape c
    obtain ⟨us, hus, hs⟩ := ih
    exact ⟨u :: us, .cons hu hus, by rw [hjoin, hs, Option.map_some]⟩

theorem spelledAs_writeText (s? : Option String) : (Token.string s?).SpelledAs (writeText s?) := by
  cases s? with
  | none =>
    have hdigits : ['d', '8', '0', '0'].all Hex.isDigit = true := by decide
    exact .string (.cons (.hex hdigits) .nil)
  | some s =>
    obtain ⟨us, hus, hjoin⟩ := exists_units_writeString s.toList
    have h := Token.SpelledAs.string hus
    rw [hjoin, Option.map_some, String.ofList_toList] at h
    exact h

/-! ## Numerals -/

/-- Only zero is written with a zero in front. -/
theorem eq_zero_of_head_toDigits {n : ℕ} (h : (Nat.toDigits 10 n).head? = some '0') : n = 0 := by
  induction n using Nat.strongRecOn with
  | ind n ih =>
    by_cases hn : n < 10
    · rw [Nat.toDigits_of_lt_base hn] at h
      have hdigit : ∀ d < 10, Nat.digitChar d = '0' → d = 0 := by decide
      exact hdigit n hn (Option.some.inj h)
    · rw [Nat.toDigits_of_base_le (by omega) (by omega),
        List.head?_append_of_ne_nil _ Nat.toDigits_ne_nil] at h
      have hzero := ih (n / 10) (by omega) h
      omega

theorem isWhole_writeNatural (n : ℕ) : IsWhole (writeNatural n) where
  ne_nil := Nat.toDigits_ne_nil
  digits _ := Nat.isDigit_of_mem_toDigits (by omega) (by omega)
  zero h := by rw [writeNatural, eq_zero_of_head_toDigits h, Nat.toDigits_zero]

theorem spelledAs_writeNatural (n : ℕ) : (Token.number (some n)).SpelledAs (writeNatural n) := by
  have h := NumberSpelledAs.natural (isWhole_writeNatural n)
  rw [writeNatural, Nat.ofDigitChars_ten_toDigits] at h
  exact .number h

theorem numberSpelledAs_minusZero : NumberSpelledAs none ['-', '0'] := by
  have hzero : IsWhole ['0'] := ⟨⟨by simp, by simp⟩, fun _ => rfl⟩
  exact .other (.inr rfl) hzero .absent .absent (.inl (by simp))

/-! ## Values -/

mutual

/-- The compact text of a value is one of its spellings. -/
theorem spelledAs_write (v : Json) : TokensSpelledAs v.tokens (write v) := by
  match v with
  | .null => exact tokensSpelledAs_singleton .null
  | .bool true => exact tokensSpelledAs_singleton .bool_true
  | .bool false => exact tokensSpelledAs_singleton .bool_false
  | .natural n => exact tokensSpelledAs_singleton (spelledAs_writeNatural n)
  | .otherNumber => exact tokensSpelledAs_singleton (.number numberSpelledAs_minusZero)
  | .string s => exact tokensSpelledAs_singleton (spelledAs_writeText (some s))
  | .brokenString => exact tokensSpelledAs_singleton (spelledAs_writeText none)
  | .array [] => exact tokensSpelledAs_mark .openArray (tokensSpelledAs_singleton .closeArray)
  | .object [] => exact tokensSpelledAs_mark .openObject (tokensSpelledAs_singleton .closeObject)
  | .array (v :: vs) =>
    have hitems := (spelledAs_writeItems vs).append (tokensSpelledAs_singleton .closeArray)
    rw [write, List.cons_append, List.cons_append, List.append_assoc]
    exact tokensSpelledAs_mark .openArray ((spelledAs_write v).append hitems)
  | .object ((k, v) :: ms) =>
    have hmembers := (spelledAs_writeMembers ms).append (tokensSpelledAs_singleton .closeObject)
    have hvalue := tokensSpelledAs_mark .colon ((spelledAs_write v).append hmembers)
    simp only [write, List.cons_append, List.append_assoc]
    exact tokensSpelledAs_mark .openObject (tokensSpelledAs_cons (spelledAs_writeText k) hvalue)

theorem spelledAs_writeItems (vs : List Json) :
    TokensSpelledAs (itemTokens vs) (writeItems vs) := by
  match vs with
  | [] => exact tokensSpelledAs_nil
  | v :: vs =>
    rw [writeItems, List.cons_append]
    exact tokensSpelledAs_mark .comma ((spelledAs_write v).append (spelledAs_writeItems vs))

theorem spelledAs_writeMembers (ms : List (Option String × Json)) :
    TokensSpelledAs (memberTokens ms) (writeMembers ms) := by
  match ms with
  | [] => exact tokensSpelledAs_nil
  | (k, v) :: ms =>
    have hvalue := tokensSpelledAs_mark .colon
      ((spelledAs_write v).append (spelledAs_writeMembers ms))
    simp only [writeMembers, List.cons_append, List.append_assoc]
    exact tokensSpelledAs_mark .comma (tokensSpelledAs_cons (spelledAs_writeText k) hvalue)

end

/-- Every value is read back from its compact text. -/
theorem parse?_compact (v : Json) : parse? (compact v).toList = some v := by
  rw [compact, String.toList_ofList]
  exact parse?_of_spelledAs (spelledAs_write v)

end JumpArrows.Json
