import JumpArrows.Proofs.SpelledValues

/-! # Only spellings are read

The other half of the grammar: what the reader takes from a text is spelled there, from the pieces
of a string up to the whole value. So the reader accepts just the spellings of values. -/

namespace JumpArrows.Json

/-! ## Strings -/

theorem exists_of_piece {u : Unit16} {us : List Unit16} {t s rest : List Char}
    (hu : u.SpelledAs t)
    (hs : ∀ {us}, units? s = some (us, rest) → ∃ r, UnitsSpelledAs us r ∧ s = r ++ '"' :: rest)
    (h : (units? s).map (fun (us, rest) => (u :: us, rest)) = some (us, rest)) :
    ∃ r, UnitsSpelledAs us r ∧ t ++ s = r ++ '"' :: rest := by
  simp only [Option.map_eq_some_iff, Prod.mk.injEq, Prod.exists] at h
  obtain ⟨us', _, h, rfl, rfl⟩ := h
  obtain ⟨r, hr, rfl⟩ := hs h
  exact ⟨t ++ r, .cons hu hr, (List.append_assoc t r _).symm⟩

/-- What is read as the pieces of a string is a spelling of them. -/
theorem exists_of_units? {s rest : List Char} {us : List Unit16}
    (h : units? s = some (us, rest)) : ∃ t, UnitsSpelledAs us t ∧ s = t ++ '"' :: rest := by
  fun_induction units? s generalizing us with
  | case1 => cases h
  | case2 s =>
    cases h
    exact ⟨[], .nil, rfl⟩
  | case3 a b c d s hdigits ih =>
    exact exists_of_piece (.hex (by simpa [and_assoc] using hdigits)) ih h
  | case4 => cases h
  | case5 e s _ c hc ih => exact exists_of_piece (.short hc) ih h
  | case6 => cases h
  | case7 => cases h
  | case8 c s hquote _ _ hplain ih =>
    simp only [Bool.or_eq_true, beq_iff_eq, decide_eq_true_eq, not_or, Nat.not_lt] at hplain
    exact exists_of_piece (.plain hquote hplain.1 hplain.2) ih h

/-! ## Numerals -/

section Numerals

variable {s rest : List Char} {n? : Option ℕ}

theorem exists_of_afterDigits? (h : afterDigits? s = some rest) :
    ∃ t, IsDigits t ∧ s = t ++ rest := by
  rw [afterDigits?] at h
  split at h
  case isTrue => cases h
  case isFalse hne =>
    cases h
    refine ⟨s.takeWhile Char.isDigit, ⟨by simpa using hne, fun c hc => ?_⟩, ?_⟩
    · exact List.mem_takeWhile_imp hc
    · exact List.takeWhile_append_dropWhile.symm

theorem exists_of_afterFraction? (h : afterFraction? s = some rest) :
    ∃ t, IsFraction t ∧ s = t ++ rest := by
  rw [afterFraction?.eq_def] at h
  split at h
  · obtain ⟨t, ht, rfl⟩ := exists_of_afterDigits? h
    exact ⟨'.' :: t, .present ht, rfl⟩
  · cases h
    exact ⟨[], .absent, rfl⟩

theorem exists_of_afterExponent? (h : afterExponent? s = some rest) :
    ∃ t, IsExponent t ∧ s = t ++ rest := by
  rw [afterExponent?.eq_def] at h
  split at h
  · rename_i e s
    split at h
    · rename_i he
      have he : e = 'e' ∨ e = 'E' := by simpa using he
      split at h
      · obtain ⟨t, ht, rfl⟩ := exists_of_afterDigits? h
        exact ⟨e :: (['+'] ++ t), .present he (.inr (.inl rfl)) ht, rfl⟩
      · obtain ⟨t, ht, rfl⟩ := exists_of_afterDigits? h
        exact ⟨e :: (['-'] ++ t), .present he (.inr (.inr rfl)) ht, rfl⟩
      · obtain ⟨t, ht, rfl⟩ := exists_of_afterDigits? h
        exact ⟨e :: ([] ++ t), .present he (.inl rfl) ht, rfl⟩
    · cases h
      exact ⟨[], .absent, rfl⟩
  · cases h
    exact ⟨[], .absent, rfl⟩

/-- The digits in front of a text are a whole number, if no needless zero is there. -/
theorem isWhole_takeWhile (h : ¬ ((s.takeWhile Char.isDigit).isEmpty ||
    ((s.takeWhile Char.isDigit).head? == some '0' && 1 < (s.takeWhile Char.isDigit).length)) =
      true) : IsWhole (s.takeWhile Char.isDigit) := by
  simp only [Bool.or_eq_true, List.isEmpty_iff, Bool.and_eq_true, beq_iff_eq, decide_eq_true_eq,
    not_or, not_and, Nat.not_lt] at h
  refine ⟨⟨h.1, fun c hc => List.mem_takeWhile_imp hc⟩, fun hzero => ?_⟩
  obtain ⟨d, ds, hdigits⟩ := List.exists_cons_of_ne_nil h.1
  have hlength := h.2 hzero
  rw [hdigits] at hzero hlength ⊢
  rw [List.length_cons] at hlength
  rw [List.eq_nil_of_length_eq_zero (by omega : ds.length = 0), Option.some.inj hzero]

theorem exists_of_unsigned? (h : unsigned? s = some (n?, rest)) :
    ∃ whole fraction exponent, IsWhole whole ∧ IsFraction fraction ∧ IsExponent exponent ∧
      s = whole ++ (fraction ++ (exponent ++ rest)) ∧
      n? = if fraction = [] ∧ exponent = [] then some (Nat.ofDigitChars 10 whole 0) else none := by
  rw [unsigned?] at h
  split at h
  case isTrue => cases h
  case isFalse hsound =>
    simp only [Option.bind_eq_bind, Option.bind_eq_some_iff, Option.pure_def, Option.some.injEq,
      Prod.mk.injEq] at h
    obtain ⟨_, ⟨r, hfraction, hexponent⟩, rfl, rfl⟩ := h
    obtain ⟨exponent, hexp, rfl⟩ := exists_of_afterExponent? hexponent
    obtain ⟨fraction, hfrac, hdrop⟩ := exists_of_afterFraction? hfraction
    refine ⟨_, fraction, exponent, isWhole_takeWhile hsound, hfrac, hexp, ?_, ?_⟩
    · rw [← hdrop, List.takeWhile_append_dropWhile]
    · rw [hdrop]
      congr 1
      rw [← List.append_assoc, List.self_eq_append_left, List.append_eq_nil_iff]

theorem exists_of_number? (h : number? s = some (n?, rest)) :
    ∃ t, NumberSpelledAs n? t ∧ s = t ++ rest := by
  rw [number?.eq_def] at h
  split at h
  · rename_i s
    simp only [Option.map_eq_some_iff, Prod.mk.injEq, Prod.exists] at h
    obtain ⟨_, _, h, rfl, rfl⟩ := h
    obtain ⟨whole, fraction, exponent, hwhole, hfraction, hexponent, rfl, -⟩ :=
      exists_of_unsigned? h
    exact ⟨_, .other (.inr rfl) hwhole hfraction hexponent (.inl (by simp)), by simp⟩
  · obtain ⟨whole, fraction, exponent, hwhole, hfraction, hexponent, rfl, rfl⟩ :=
      exists_of_unsigned? h
    split
    case isTrue hplain =>
      obtain ⟨rfl, rfl⟩ := hplain
      exact ⟨whole, .natural hwhole, rfl⟩
    case isFalse hplain =>
      exact ⟨_, .other (.inl rfl) hwhole hfraction hexponent (.inr (not_and_or.mp hplain)),
        by simp⟩

end Numerals

/-! ## Tokens -/

theorem exists_of_token? {s rest : List Char} {t : Token} (h : token? s = some (t, rest)) :
    ∃ u, t.SpelledAs u ∧ s = u ++ rest := by
  rw [token?.eq_def] at h
  split at h
  case h_1 => cases h; exact ⟨_, .openArray, rfl⟩
  case h_2 => cases h; exact ⟨_, .closeArray, rfl⟩
  case h_3 => cases h; exact ⟨_, .openObject, rfl⟩
  case h_4 => cases h; exact ⟨_, .closeObject, rfl⟩
  case h_5 => cases h; exact ⟨_, .comma, rfl⟩
  case h_6 => cases h; exact ⟨_, .colon, rfl⟩
  case h_7 => cases h; exact ⟨_, .null, rfl⟩
  case h_8 => cases h; exact ⟨_, .bool_true, rfl⟩
  case h_9 => cases h; exact ⟨_, .bool_false, rfl⟩
  case h_10 s =>
    simp only [readText?, Option.map_map, Option.map_eq_some_iff, Function.comp_apply,
      Prod.mk.injEq, Prod.exists] at h
    obtain ⟨us, _, hs, rfl, rfl⟩ := h
    obtain ⟨u, hu, rfl⟩ := exists_of_units? hs
    exact ⟨_, .string hu, by simp⟩
  case h_11 =>
    simp only [Option.map_eq_some_iff, Prod.mk.injEq, Prod.exists] at h
    obtain ⟨n?, _, hs, rfl, rfl⟩ := h
    obtain ⟨u, hu, rfl⟩ := exists_of_number? hs
    exact ⟨u, .number hu, rfl⟩

/-- What is read as a row of tokens is a spelling of it. -/
theorem spelledAs_of_tokens? {s : List Char} {ts : List Token} (h : tokens? s = some ts) :
    TokensSpelledAs ts s := by
  fun_induction tokens? s generalizing ts with
  | case1 s hdrop =>
    cases h
    exact .nil (List.dropWhile_eq_nil_iff.mp hdrop)
  | case2 => cases h
  | case3 s c cs hdrop t rest ht ih =>
    obtain ⟨us, hus, rfl⟩ := Option.map_eq_some_iff.mp h
    obtain ⟨u, hu, hcs⟩ := exists_of_token? ht
    rw [← List.takeWhile_append_dropWhile (p := isSpace) (l := s), hdrop, hcs]
    exact .cons (fun c hc => List.mem_takeWhile_imp hc) hu (ih hus)

/-! ## Values -/

/-- The tokens that an open array or object has taken. -/
def Frame.begun : Frame → List Token
  | .array done => .openArray :: done.reverse.flatMap fun v => v.tokens ++ [.comma]
  | .object done key =>
    .openObject :: (done.reverse.flatMap fun m => .string m.1 :: .colon :: (m.2.tokens ++ [.comma]))
      ++ [.string key, .colon]

def begun : List Frame → List Token
  | [] => []
  | f :: outer => begun outer ++ f.begun

@[simp]
theorem tokens_ofNumeral? (n? : Option ℕ) : (ofNumeral? n?).tokens = [.number n?] := by
  cases n? <;> rw [ofNumeral?, tokens]

@[simp]
theorem tokens_ofText? (s? : Option String) : (ofText? s?).tokens = [.string s?] := by
  cases s? <;> rw [ofText?, tokens]

theorem tokens_append_itemTokens (v w : Json) (vs : List Json) :
    v.tokens ++ itemTokens (vs ++ [w]) =
      ((v :: vs).flatMap fun v => v.tokens ++ [.comma]) ++ w.tokens := by
  induction vs generalizing v with
  | nil => simp [itemTokens]
  | cons u vs ih => simp [itemTokens, ih]

theorem tokens_append_memberTokens (k l : Option String) (v w : Json)
    (ms : List (Option String × Json)) :
    .string k :: .colon :: (v.tokens ++ memberTokens (ms ++ [(l, w)])) =
      (((k, v) :: ms).flatMap fun m => .string m.1 :: .colon :: (m.2.tokens ++ [.comma])) ++
        .string l :: .colon :: w.tokens := by
  induction ms generalizing k v with
  | nil => simp [memberTokens]
  | cons m ms ih => simp [memberTokens, ih]

theorem tokens_closed_array (done : List Json) (v : Json) :
    (array (v :: done).reverse).tokens =
      (Frame.array done).begun ++ (v.tokens ++ [.closeArray]) := by
  rw [List.reverse_cons, Frame.begun]
  cases done.reverse with
  | nil => simp [tokens, itemTokens]
  | cons u us =>
    rw [List.cons_append, tokens, ← List.append_assoc, tokens_append_itemTokens]
    simp only [List.cons_append, List.append_assoc]

theorem tokens_closed_object (done : List (Option String × Json)) (k : Option String) (v : Json) :
    (object ((k, v) :: done).reverse).tokens =
      (Frame.object done k).begun ++ (v.tokens ++ [.closeObject]) := by
  rw [List.reverse_cons, Frame.begun]
  cases done.reverse with
  | nil => simp [tokens, memberTokens]
  | cons m ms =>
    have h := congrArg (· ++ [Token.closeObject]) (tokens_append_memberTokens m.1 k m.2 v ms)
    simp only [List.cons_append, List.append_assoc] at h
    rw [List.cons_append, tokens, h]
    simp only [List.cons_append, List.append_assoc, List.nil_append]

/-- In every state of the reader, the tokens that it has taken and those that are left are the
tokens of the value that it ends with. -/
theorem tokens_of_read :
    (∀ ts outer v, readValue ts outer = some v → begun outer ++ ts = v.tokens) ∧
      ∀ w ts outer v, readOn w ts outer = some v →
        begun outer ++ (w.tokens ++ ts) = v.tokens := by
  refine readValue.mutual_induct
    (fun ts outer => ∀ v, readValue ts outer = some v → begun outer ++ ts = v.tokens)
    (fun w ts outer => ∀ v, readOn w ts outer = some v →
      begun outer ++ (w.tokens ++ ts) = v.tokens)
    ?null ?bool ?number ?string ?emptyArray ?array ?emptyObject ?object ?other ?whole ?comma
    ?closeArray ?commaObject ?closeObject ?otherOn
  case null | bool | number | string | emptyArray | emptyObject =>
    intros
    rename_i ih v h
    rw [readValue] at h
    simpa [tokens] using ih v h
  case array =>
    intro ts outer hopen ih v h
    rw [readValue] at h
    · simpa [begun, Frame.begun] using ih v h
    · exact hopen
  case object =>
    intro key ts outer ih v h
    rw [readValue] at h
    simpa [begun, Frame.begun] using ih v h
  case other =>
    intros
    rename_i h
    simp_all [readValue]
  case whole =>
    intro w v h
    rw [readOn] at h
    cases h
    simp [begun]
  case comma =>
    intro w ts done outer ih v h
    rw [readOn] at h
    simpa [begun, Frame.begun] using ih v h
  case closeArray =>
    intro w ts done outer ih v h
    rw [readOn] at h
    rw [← ih v h, tokens_closed_array, begun]
    simp
  case commaObject =>
    intro w key ts done k outer ih v h
    rw [readOn] at h
    simpa [begun, Frame.begun] using ih v h
  case closeObject =>
    intro w ts done k outer ih v h
    rw [readOn] at h
    rw [← ih v h, tokens_closed_object, begun]
    simp
  case otherOn =>
    intros
    rename_i h
    simp_all [readOn]

/-- The reader takes a value from a text just if the text is one of its spellings. -/
theorem parse?_eq_some_iff {text : List Char} {v : Json} :
    parse? text = some v ↔ v.SpelledAs text := by
  refine ⟨fun h => ?_, parse?_of_spelledAs⟩
  obtain ⟨ts, hts, hread⟩ := Option.bind_eq_some_iff.mp h
  have htokens : ts = v.tokens := tokens_of_read.1 ts [] v hread
  rw [SpelledAs, ← htokens]
  exact spelledAs_of_tokens? hts

end JumpArrows.Json
