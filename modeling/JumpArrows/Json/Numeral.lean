/-! # Numbers in JSON

A numeral is an optional minus sign, digits without a needless zero in front, and an optional
fraction and exponent. Only a numeral that is digits alone has a value here. -/

namespace JumpArrows.Json

/-- What follows the digits at the start, of which there must be one. -/
def afterDigits? (s : List Char) : Option (List Char) :=
  if (s.takeWhile Char.isDigit).isEmpty then none else some (s.dropWhile Char.isDigit)

def afterFraction? : List Char → Option (List Char)
  | '.' :: s => afterDigits? s
  | s => some s

def afterExponent? : List Char → Option (List Char)
  | c :: s =>
    if c == 'e' || c == 'E' then
      match s with
      | '+' :: s => afterDigits? s
      | '-' :: s => afterDigits? s
      | s => afterDigits? s
    else some (c :: s)
  | [] => some []

/-- A numeral without sign. It has no needless zero in front. -/
def unsigned? (s : List Char) : Option (Option Nat × List Char) :=
  let digits := s.takeWhile Char.isDigit
  let rest := s.dropWhile Char.isDigit
  if digits.isEmpty || (digits.head? == some '0' && 1 < digits.length) then none
  else do
    let rest' ← (afterFraction? rest).bind afterExponent?
    return (if rest' = rest then some (Nat.ofDigitChars 10 digits 0) else none, rest')

def number? : List Char → Option (Option Nat × List Char)
  | '-' :: s => (unsigned? s).map fun (_, rest) => (none, rest)
  | s => unsigned? s

def writeNatural (n : Nat) : List Char :=
  Nat.toDigits 10 n

theorem length_dropWhile_le (p : Char → Bool) (s : List Char) :
    (s.dropWhile p).length ≤ s.length :=
  (List.dropWhile_suffix p).length_le

private theorem afterDigits?_length {s rest} (h : afterDigits? s = some rest) :
    rest.length ≤ s.length := by
  unfold afterDigits? at h
  split at h
  · simp at h
  · cases h
    exact length_dropWhile_le _ s

private theorem afterFraction?_length {s rest} (h : afterFraction? s = some rest) :
    rest.length ≤ s.length := by
  unfold afterFraction? at h
  split at h
  · have := afterDigits?_length h
    simp only [List.length_cons]
    omega
  · cases h
    exact Nat.le_refl _

private theorem afterExponent?_length {s rest} (h : afterExponent? s = some rest) :
    rest.length ≤ s.length := by
  unfold afterExponent? at h
  split at h
  · split at h
    · split at h <;> have := afterDigits?_length h <;> simp only [List.length_cons] at * <;> omega
    · cases h
      exact Nat.le_refl _
  · cases h
    exact Nat.le_refl _

theorem unsigned?_length {s n? rest} (h : unsigned? s = some (n?, rest)) :
    rest.length < s.length := by
  unfold unsigned? at h
  have hs := congrArg List.length (List.takeWhile_append_dropWhile (p := Char.isDigit) (l := s))
  rw [List.length_append] at hs
  simp only at h
  split at h
  · simp at h
  · rename_i hd
    simp only [bind, Option.bind_eq_some_iff, pure, Option.some.injEq, Prod.mk.injEq] at h
    obtain ⟨r, ⟨q, hq, hr⟩, -, rfl⟩ := h
    have h1 := afterFraction?_length hq
    have h2 := afterExponent?_length hr
    have : (s.takeWhile Char.isDigit).length ≠ 0 := by
      intro h0
      simp [List.eq_nil_of_length_eq_zero h0] at hd
    omega

theorem number?_length {s n? rest} (h : number? s = some (n?, rest)) :
    rest.length < s.length := by
  unfold number? at h
  split at h
  · simp only [Option.map_eq_some_iff, Prod.mk.injEq, Prod.exists] at h
    obtain ⟨_, _, h, -, rfl⟩ := h
    have := unsigned?_length h
    simp only [List.length_cons]
    omega
  · exact unsigned?_length h

end JumpArrows.Json
