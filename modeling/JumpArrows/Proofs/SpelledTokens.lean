import JumpArrows.Json.Token
import JumpArrows.Proofs.Words

/-! # The spellings of JSON tokens

A string can be spelled in many ways, since its characters may stand as they are or be escaped, and
so can a number that has no value here. The grammar of the spellings is told here beside the
reader. Every token is read from each of its spellings, if a numeral does not run on into what
follows, and a row of tokens from its spellings with any white space in between. -/

namespace JumpArrows.Json

/-! ## Strings -/

inductive Unit16.SpelledAs : Unit16 → List Char → Prop where
  | plain {c : Char} (hquote : c ≠ '"') (hslash : c ≠ '\\') (hcontrol : 0x20 ≤ c.toNat) :
    SpelledAs (.char c) [c]
  | short {e c : Char} (h : shortEscape? e = some c) : SpelledAs (.char c) ['\\', e]
  | hex {a b c d : Char} (h : [a, b, c, d].all Hex.isDigit = true) :
    SpelledAs (.escaped (Hex.value [a, b, c, d])) ['\\', 'u', a, b, c, d]

inductive UnitsSpelledAs : List Unit16 → List Char → Prop where
  | nil : UnitsSpelledAs [] []
  | cons {u : Unit16} {us : List Unit16} {s t : List Char} (hu : u.SpelledAs s)
    (hus : UnitsSpelledAs us t) : UnitsSpelledAs (u :: us) (s ++ t)

theorem units?_piece {u : Unit16} {s : List Char} (h : u.SpelledAs s) (rest : List Char) :
    units? (s ++ rest) = (units? rest).map fun (us, rest) => (u :: us, rest) := by
  cases h with
  | plain hquote hslash hcontrol =>
    rw [List.singleton_append, units?.eq_def]
    split <;> simp_all
  | @short e c h =>
    have he : e ≠ 'u' := by
      rintro rfl
      cases h
    simp [units?, h, he]
  | hex h => simp_all [units?]

theorem units?_spelled {us : List Unit16} {s : List Char} (h : UnitsSpelledAs us s)
    (rest : List Char) : units? (s ++ '"' :: rest) = some (us, rest) := by
  induction h with
  | nil => rw [List.nil_append, units?]
  | cons hu _ ih => rw [List.append_assoc, units?_piece hu, ih, Option.map_some]

/-! ## Numerals -/

/-- A character that a numeral does not go on with. -/
def EndsNumber (c : Char) : Prop :=
  c.isDigit = false ∧ c ≠ '.' ∧ c ≠ 'e' ∧ c ≠ 'E'

instance : DecidablePred EndsNumber :=
  fun _ => inferInstanceAs (Decidable (_ ∧ _))

/-- A numeral in front of the text does not run on into it. -/
def Stops (rest : List Char) : Prop :=
  ∀ c ∈ rest.head?, EndsNumber c

structure IsDigits (s : List Char) : Prop where
  ne_nil : s ≠ []
  digits : ∀ c ∈ s, c.isDigit = true

/-- Digits without a needless zero in front. -/
structure IsWhole (s : List Char) : Prop extends IsDigits s where
  zero : s.head? = some '0' → s = ['0']

inductive IsFraction : List Char → Prop where
  | absent : IsFraction []
  | present {s : List Char} (h : IsDigits s) : IsFraction ('.' :: s)

inductive IsExponent : List Char → Prop where
  | absent : IsExponent []
  | present {e : Char} {sign s : List Char} (he : e = 'e' ∨ e = 'E')
    (hsign : sign = [] ∨ sign = ['+'] ∨ sign = ['-']) (h : IsDigits s) :
    IsExponent (e :: (sign ++ s))

/-- The ways to write a number: one that is digits alone has their value, any other has none. -/
inductive NumberSpelledAs : Option ℕ → List Char → Prop where
  | natural {s : List Char} (h : IsWhole s) :
    NumberSpelledAs (some (Nat.ofDigitChars 10 s 0)) s
  | other {sign whole fraction exponent : List Char} (hsign : sign = [] ∨ sign = ['-'])
    (hwhole : IsWhole whole) (hfraction : IsFraction fraction) (hexponent : IsExponent exponent)
    (hother : sign ≠ [] ∨ fraction ≠ [] ∨ exponent ≠ []) :
    NumberSpelledAs none (sign ++ whole ++ fraction ++ exponent)

section Numerals

variable {s rest : List Char}

theorem afterDigits?_append (h : IsDigits s) (hrest : ∀ c ∈ rest.head?, c.isDigit = false) :
    afterDigits? (s ++ rest) = some rest := by
  rw [afterDigits?, Text.takeWhile_run_append h.digits hrest,
    Text.dropWhile_run_append h.digits hrest, if_neg]
  simpa using h.ne_nil

theorem afterFraction?_append (h : IsFraction s) (hrest : ∀ c ∈ rest.head?, c.isDigit = false)
    (hpoint : ∀ c ∈ rest.head?, c ≠ '.') : afterFraction? (s ++ rest) = some rest := by
  cases h with
  | absent =>
    cases rest with
    | nil => rfl
    | cons c rest =>
      have hc := hpoint c (by simp)
      rw [List.nil_append, afterFraction?.eq_def]
      split <;> simp_all
  | present h => exact afterDigits?_append h hrest

theorem afterExponent?_append (h : IsExponent s) (hrest : Stops rest) :
    afterExponent? (s ++ rest) = some rest := by
  cases h with
  | absent =>
    cases rest with
    | nil => rfl
    | cons c rest =>
      obtain ⟨-, -, he, hE⟩ := hrest c (by simp)
      simp [afterExponent?, he, hE]
  | @present e sign s he hsign h =>
    have hmark : (e == 'e' || e == 'E') = true := by simpa using he
    have hdigits := afterDigits?_append h fun c hc => (hrest c hc).1
    rcases hsign with rfl | rfl | rfl
    · -- no digit is a sign
      obtain ⟨d, ds, rfl⟩ := List.exists_cons_of_ne_nil h.ne_nil
      have hd : d.isDigit = true := h.digits d (by simp)
      have hplus : d ≠ '+' := by
        rintro rfl
        exact absurd hd (by decide)
      have hminus : d ≠ '-' := by
        rintro rfl
        exact absurd hd (by decide)
      simpa [afterExponent?, hmark, hplus, hminus] using hdigits
    · simpa [afterExponent?, hmark] using hdigits
    · simpa [afterExponent?, hmark] using hdigits

/-- Behind the digits of a numeral there is no other digit. -/
theorem head_fraction_append (h : IsFraction s) (hrest : ∀ c ∈ rest.head?, c.isDigit = false) :
    ∀ c ∈ (s ++ rest).head?, c.isDigit = false := by
  cases h with
  | absent => exact hrest
  | present => simp

theorem head_exponent_append (h : IsExponent s) (hrest : Stops rest) :
    ∀ c ∈ (s ++ rest).head?, c.isDigit = false ∧ c ≠ '.' := by
  cases h with
  | absent => exact fun c hc => ⟨(hrest c hc).1, (hrest c hc).2.1⟩
  | present he => rcases he with rfl | rfl <;> simp

theorem unsigned?_append {whole fraction exponent : List Char} (hwhole : IsWhole whole)
    (hfraction : IsFraction fraction) (hexponent : IsExponent exponent) (hrest : Stops rest) :
    unsigned? (whole ++ (fraction ++ (exponent ++ rest))) =
      some (if fraction = [] ∧ exponent = [] then some (Nat.ofDigitChars 10 whole 0) else none,
        rest) := by
  have hexp := head_exponent_append hexponent hrest
  have hfrac := head_fraction_append hfraction fun c hc => (hexp c hc).1
  have hsound : ¬ (whole.isEmpty || (whole.head? == some '0' && 1 < whole.length)) = true := by
    simp only [Bool.or_eq_true, List.isEmpty_iff, Bool.and_eq_true, beq_iff_eq, decide_eq_true_eq]
    rintro (hnil | ⟨hzero, hlength⟩)
    · exact hwhole.ne_nil hnil
    · rw [hwhole.zero hzero] at hlength
      exact absurd hlength (by decide)
  have hplain : rest = fraction ++ (exponent ++ rest) ↔ fraction = [] ∧ exponent = [] := by
    rw [← List.append_assoc, List.self_eq_append_left, List.append_eq_nil_iff]
  rw [unsigned?, Text.takeWhile_run_append hwhole.digits hfrac,
    Text.dropWhile_run_append hwhole.digits hfrac, if_neg hsound,
    afterFraction?_append hfraction (fun c hc => (hexp c hc).1) fun c hc => (hexp c hc).2]
  simp only [Option.bind_some, afterExponent?_append hexponent hrest, Option.bind_eq_bind,
    Option.pure_def, hplain]

theorem number?_of_whole (h : IsWhole s) (rest : List Char) :
    number? (s ++ rest) = unsigned? (s ++ rest) := by
  obtain ⟨d, ds, rfl⟩ := List.exists_cons_of_ne_nil h.ne_nil
  have hminus : d ≠ '-' := by
    rintro rfl
    exact absurd (h.digits _ List.mem_cons_self) (by decide)
  rw [List.cons_append, number?]
  rintro _ heq
  exact hminus (List.cons.inj heq).1

/-- A number is read from each of its spellings. -/
theorem number?_append {n? : Option ℕ} (h : NumberSpelledAs n? s) (hrest : Stops rest) :
    number? (s ++ rest) = some (n?, rest) := by
  cases h with
  | natural hwhole =>
    rw [number?_of_whole hwhole]
    exact unsigned?_append hwhole .absent .absent hrest
  | @other sign whole fraction exponent hsign hwhole hfraction hexponent hother =>
    have hunsigned := unsigned?_append hwhole hfraction hexponent hrest
    simp only [List.append_assoc]
    rcases hsign with rfl | rfl
    · have hnone : ¬ (fraction = [] ∧ exponent = []) := by
        rintro ⟨rfl, rfl⟩
        simp at hother
      rw [List.nil_append, number?_of_whole hwhole, hunsigned, if_neg hnone]
    · rw [List.singleton_append, number?, hunsigned, Option.map_some]

end Numerals

/-! ## Tokens -/

inductive Token.SpelledAs : Token → List Char → Prop where
  | openArray : SpelledAs .openArray ['[']
  | closeArray : SpelledAs .closeArray [']']
  | openObject : SpelledAs .openObject ['\x7b']
  | closeObject : SpelledAs .closeObject ['\x7d']
  | comma : SpelledAs .comma [',']
  | colon : SpelledAs .colon [':']
  | null : SpelledAs .null ['n', 'u', 'l', 'l']
  | bool_true : SpelledAs (.bool true) ['t', 'r', 'u', 'e']
  | bool_false : SpelledAs (.bool false) ['f', 'a', 'l', 's', 'e']
  | number {n? : Option ℕ} {s : List Char} (h : NumberSpelledAs n? s) : SpelledAs (.number n?) s
  | string {us : List Unit16} {s : List Char} (h : UnitsSpelledAs us s) :
    SpelledAs (.string ((joinUnits us).map String.ofList)) ('"' :: (s ++ ['"']))

def Token.isNumber : Token → Bool
  | .number _ => true
  | _ => false

/-- Not two numbers, of which the first could run on into the second. -/
abbrev Token.Apart (t u : Token) : Prop :=
  ¬ (t.isNumber = true ∧ u.isNumber = true)

def IsSpacing (s : List Char) : Prop :=
  ∀ c ∈ s, isSpace c = true

/-- The ways to write a row of tokens, with spacing before, between and behind them. -/
inductive TokensSpelledAs : List Token → List Char → Prop where
  | nil {space : List Char} (hspace : IsSpacing space) : TokensSpelledAs [] space
  | cons {t : Token} {ts : List Token} {space s rest : List Char} (hspace : IsSpacing space)
    (ht : t.SpelledAs s) (hts : TokensSpelledAs ts rest) :
    TokensSpelledAs (t :: ts) (space ++ (s ++ rest))

section Tokens

variable {t : Token} {ts us : List Token} {s r rest : List Char}

theorem isSpace_of_isDigit {c : Char} (h : c.isDigit = true) : isSpace c = false := by
  rw [Bool.eq_false_iff]
  intro hspace
  simp only [isSpace, Bool.or_eq_true, beq_iff_eq] at hspace
  rcases hspace with ((rfl | rfl) | rfl) | rfl <;> exact absurd h (by decide)

theorem endsNumber_of_isSpace {c : Char} (h : isSpace c = true) : EndsNumber c := by
  simp only [isSpace, Bool.or_eq_true, beq_iff_eq] at h
  rcases h with ((rfl | rfl) | rfl) | rfl <;> decide

/-- A numeral starts with a digit or a minus sign. -/
theorem NumberSpelledAs.head {n? : Option ℕ} (h : NumberSpelledAs n? s) :
    ∃ c r, s = c :: r ∧ (c.isDigit = true ∨ c = '-') := by
  have hwhole {s : List Char} (h : IsWhole s) (r : List Char) :
      ∃ c r', s ++ r = c :: r' ∧ (c.isDigit = true ∨ c = '-') := by
    obtain ⟨d, ds, rfl⟩ := List.exists_cons_of_ne_nil h.ne_nil
    exact ⟨d, ds ++ r, rfl, .inl (h.digits d List.mem_cons_self)⟩
  cases h with
  | natural h => simpa using hwhole h []
  | other hsign h =>
    simp only [List.append_assoc]
    rcases hsign with rfl | rfl
    · exact hwhole h _
    · exact ⟨'-', _, rfl, .inr rfl⟩

/-- No token starts with white space, and only a number could go on with what a number is. -/
theorem Token.SpelledAs.head (h : t.SpelledAs s) :
    ∃ c r, s = c :: r ∧ isSpace c = false ∧ (t.isNumber = false → EndsNumber c) := by
  cases h with
  | number h =>
    obtain ⟨c, r, rfl, hc⟩ := h.head
    refine ⟨c, r, rfl, ?_, fun h => by cases h⟩
    rcases hc with hc | rfl
    · exact isSpace_of_isDigit hc
    · decide
  | string => exact ⟨'"', _, rfl, by decide, fun _ => by decide⟩
  | _ => exact ⟨_, _, rfl, by decide, fun _ => by decide⟩

/-- What starts with none of the marks of the other tokens can only be a number. -/
theorem token?_of_head {c : Char} (h : c.isDigit = true ∨ c = '-') (s : List Char) :
    token? (c :: s) = (number? (c :: s)).map fun (n?, rest) => (.number n?, rest) := by
  have hne (d : Char) (hd : d.isDigit = false ∧ d ≠ '-') : c ≠ d := by
    rintro rfl
    rcases h with h | h
    · exact absurd (hd.1.symm.trans h) (by decide)
    · exact hd.2 h
  rw [token?.eq_def]
  split
  case h_11 => rfl
  all_goals
    rename_i heq
    exact absurd (List.cons.inj heq).1 (hne _ (by decide))

/-- A token is read from each of its spellings. -/
theorem token?_append (h : t.SpelledAs s) (hrest : t.isNumber = true → Stops rest) :
    token? (s ++ rest) = some (t, rest) := by
  cases h with
  | number h =>
    obtain ⟨c, r, rfl, hc⟩ := h.head
    have hnumber := number?_append h (hrest rfl)
    rw [List.cons_append] at hnumber ⊢
    rw [token?_of_head hc, hnumber, Option.map_some]
  | string h =>
    rw [List.cons_append, List.append_assoc, List.singleton_append, token?, readText?,
      units?_spelled h]
    rfl
  | _ => rfl

theorem TokensSpelledAs.space (h : TokensSpelledAs ts s) {space : List Char}
    (hspace : IsSpacing space) : TokensSpelledAs ts (space ++ s) := by
  have happend {r : List Char} (hr : IsSpacing r) : IsSpacing (space ++ r) := by
    intro c hc
    exact (List.mem_append.mp hc).elim (hspace c) (hr c)
  cases h with
  | nil hr => exact .nil (happend hr)
  | cons hr ht hts =>
    rw [← List.append_assoc]
    exact .cons (happend hr) ht hts

theorem TokensSpelledAs.append (hts : TokensSpelledAs ts s) (hus : TokensSpelledAs us r) :
    TokensSpelledAs (ts ++ us) (s ++ r) := by
  induction hts with
  | nil hspace => exact hus.space hspace
  | cons hspace ht _ ih =>
    simp only [List.append_assoc, List.cons_append]
    exact .cons hspace ht ih

theorem isSpacing_nil : IsSpacing [] :=
  fun _ hc => absurd hc List.not_mem_nil

theorem tokensSpelledAs_nil : TokensSpelledAs [] [] :=
  .nil isSpacing_nil

theorem tokensSpelledAs_cons (ht : t.SpelledAs s) (hts : TokensSpelledAs ts r) :
    TokensSpelledAs (t :: ts) (s ++ r) :=
  .cons isSpacing_nil ht hts

theorem tokensSpelledAs_mark {c : Char} (ht : t.SpelledAs [c]) (hts : TokensSpelledAs ts r) :
    TokensSpelledAs (t :: ts) (c :: r) :=
  tokensSpelledAs_cons ht hts

theorem tokensSpelledAs_singleton (ht : t.SpelledAs s) : TokensSpelledAs [t] s := by
  simpa using tokensSpelledAs_cons ht tokensSpelledAs_nil

/-- If a numeral stands in front of a row of tokens, it ends there, unless the first is a number. -/
theorem TokensSpelledAs.stops (h : TokensSpelledAs ts s)
    (hhead : ∀ t ∈ ts.head?, t.isNumber = false) : Stops s := by
  cases h with
  | nil hspace => exact fun c hc => endsNumber_of_isSpace (hspace c (List.mem_of_mem_head? hc))
  | @cons t ts space s rest hspace ht hts =>
    intro c hc
    cases space with
    | nil =>
      obtain ⟨d, r, rfl, -, hd⟩ := ht.head
      obtain rfl : d = c := by simpa using hc
      exact hd (hhead t rfl)
    | cons d space =>
      obtain rfl : d = c := by simpa using hc
      exact endsNumber_of_isSpace (hspace d List.mem_cons_self)

theorem tokens?_of_spacing (h : IsSpacing s) : tokens? s = some [] := by
  have hdrop : s.dropWhile isSpace = [] := List.dropWhile_eq_nil_iff.mpr h
  rw [tokens?]
  split
  · rfl
  · rename_i heq
    rw [hdrop] at heq
    cases heq

/-- The reader goes over white space, takes a token and goes on behind it. -/
theorem tokens?_of_token {c : Char} {r : List Char} (hs : s.dropWhile isSpace = c :: r)
    (ht : token? (c :: r) = some (t, rest)) : tokens? s = (tokens? rest).map (t :: ·) := by
  rw [tokens?]
  split
  · rename_i heq
    rw [hs] at heq
    cases heq
  · rename_i heq
    obtain ⟨rfl, rfl⟩ := List.cons.inj (hs.symm.trans heq)
    split
    · rename_i hnone
      rw [ht] at hnone
      cases hnone
    · rename_i hsome
      obtain ⟨rfl, rfl⟩ := Prod.mk.inj (Option.some.inj (ht.symm.trans hsome))
      rfl

/-- A row of tokens is read from each of its spellings, if it has no two numbers in a row. -/
theorem tokens?_of_spelledAs (h : TokensSpelledAs ts s)
    (hapart : ts.IsChain Token.Apart) : tokens? s = some ts := by
  induction h with
  | nil hspace => exact tokens?_of_spacing hspace
  | @cons t ts space s rest hspace ht hts ih =>
    have hstops : t.isNumber = true → Stops rest := by
      intro hnumber
      apply hts.stops
      intro u hu
      rw [← Bool.not_eq_true]
      exact fun hnumber' => List.isChain_cons.mp hapart |>.1 u hu ⟨hnumber, hnumber'⟩
    obtain ⟨c, r, rfl, hc, -⟩ := ht.head
    have hdrop : (space ++ (c :: r ++ rest)).dropWhile isSpace = c :: (r ++ rest) := by
      rw [List.dropWhile_append_of_pos hspace, List.cons_append,
        Text.dropWhile_of_head (by simpa using hc)]
    rw [tokens?_of_token hdrop (token?_append ht hstops), ih (List.isChain_cons.mp hapart).2,
      Option.map_some]

end Tokens

end JumpArrows.Json
