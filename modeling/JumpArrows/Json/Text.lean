import JumpArrows.Text.Hex

/-! # Strings in JSON

A string is written between quotes, and only the quote, the backslash and the control characters
below the space are escaped. Reading also knows the escapes that writing does without: a string is
first a row of pieces, characters and 16-bit units, and then a text, if every surrogate among the
units has its partner. -/

namespace JumpArrows.Json

/-- A piece of a string: a character, or a 16-bit unit that was written as an escape. -/
inductive Unit16 where
  | char (c : Char)
  | escaped (unit : Nat)
  deriving DecidableEq, Repr

/-- The text of a row of pieces. A leading surrogate joins the trailing one right behind it; any
other surrogate leaves the row without a text. -/
def joinUnits : List Unit16 → Option (List Char)
  | [] => some []
  | .char c :: rest => (joinUnits rest).map (c :: ·)
  | .escaped u :: rest =>
    if 0xD800 ≤ u ∧ u < 0xDC00 then
      match rest with
      | .escaped v :: rest =>
        if 0xDC00 ≤ v ∧ v < 0xE000 then
          (joinUnits rest).map
            (Char.ofNat (0x10000 + 0x400 * (u - 0xD800) + (v - 0xDC00)) :: ·)
        else none
      | _ => none
    else if 0xDC00 ≤ u ∧ u < 0xE000 then none
    else (joinUnits rest).map (Char.ofNat u :: ·)

def shortEscape? : Char → Option Char
  | '"' => some '"'
  | '\\' => some '\\'
  | '/' => some '/'
  | 'b' => some '\x08'
  | 'f' => some '\x0c'
  | 'n' => some '\n'
  | 'r' => some '\r'
  | 't' => some '\t'
  | _ => none

/-- The pieces of a string from behind its opening quote, and what follows its closing one. A
control character must not stand in a string. -/
def units? : List Char → Option (List Unit16 × List Char)
  | [] => none
  | '"' :: rest => some ([], rest)
  | '\\' :: 'u' :: a :: b :: c :: d :: rest =>
    if Hex.isDigit a && Hex.isDigit b && Hex.isDigit c && Hex.isDigit d then
      (units? rest).map fun (us, rest) => (.escaped (Hex.value [a, b, c, d]) :: us, rest)
    else none
  | '\\' :: e :: rest =>
    match shortEscape? e with
    | some c => (units? rest).map fun (us, rest) => (.char c :: us, rest)
    | none => none
  | c :: rest =>
    if c == '\\' || c.toNat < 0x20 then none
    else (units? rest).map fun (us, rest) => (.char c :: us, rest)

/-- The text of a string from behind its opening quote, if it has one, and what follows. -/
def readText? (s : List Char) : Option (Option String × List Char) :=
  (units? s).map fun (us, rest) => ((joinUnits us).map String.ofList, rest)

def escape (c : Char) : List Char :=
  if c = '"' then ['\\', '"']
  else if c = '\\' then ['\\', '\\']
  else if c = '\x08' then ['\\', 'b']
  else if c = '\x0c' then ['\\', 'f']
  else if c = '\n' then ['\\', 'n']
  else if c = '\r' then ['\\', 'r']
  else if c = '\t' then ['\\', 't']
  else if c.toNat < 0x20 then
    ['\\', 'u', '0', '0', Nat.digitChar (c.toNat / 16), Nat.digitChar (c.toNat % 16)]
  else [c]

def writeString (s : List Char) : List Char :=
  '"' :: s.flatMap escape ++ ['"']

/-- The form of a string that may be broken: a lone surrogate stands for those that are. -/
def writeText : Option String → List Char
  | some s => writeString s.toList
  | none => ['"', '\\', 'u', 'd', '8', '0', '0', '"']

theorem units?_length {s us rest} (h : units? s = some (us, rest)) : rest.length < s.length := by
  fun_induction units? s generalizing us rest with
  | case1 => simp at h
  | case2 => simp_all
  | case3 a b c d s _ ih =>
    simp only [Option.map_eq_some_iff, Prod.mk.injEq, Prod.exists] at h
    obtain ⟨_, _, h, -, rfl⟩ := h
    have := ih h
    simp only [List.length_cons]
    omega
  | case4 => simp at h
  | case5 e s _ c _ ih =>
    simp only [Option.map_eq_some_iff, Prod.mk.injEq, Prod.exists] at h
    obtain ⟨_, _, h, -, rfl⟩ := h
    have := ih h
    simp only [List.length_cons]
    omega
  | case6 => simp at h
  | case7 => simp at h
  | case8 c s _ _ _ _ ih =>
    simp only [Option.map_eq_some_iff, Prod.mk.injEq, Prod.exists] at h
    obtain ⟨_, _, h, -, rfl⟩ := h
    have := ih h
    simp only [List.length_cons]
    omega

theorem readText?_length {s s? rest} (h : readText? s = some (s?, rest)) :
    rest.length < s.length := by
  simp only [readText?, Option.map_eq_some_iff, Prod.mk.injEq, Prod.exists] at h
  obtain ⟨_, _, h, -, rfl⟩ := h
  exact units?_length h

end JumpArrows.Json
