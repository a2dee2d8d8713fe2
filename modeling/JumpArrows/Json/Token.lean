import JumpArrows.Json.Text
import JumpArrows.Json.Numeral

/-! # JSON tokens

The text of a value is a row of tokens with white space between them. A string token is the text
that the string stands for, unless it is broken; a number token is its value, if it is a plain
natural numeral. -/

namespace JumpArrows.Json

inductive Token where
  | openArray
  | closeArray
  | openObject
  | closeObject
  | comma
  | colon
  | null
  | bool (b : Bool)
  | number (n? : Option Nat)
  | string (s? : Option String)
  deriving DecidableEq, Repr

def isSpace (c : Char) : Bool :=
  c == ' ' || c == '\t' || c == '\n' || c == '\r'

/-- The token at the start of a text that starts with one, and what follows it. -/
def token? : List Char → Option (Token × List Char)
  | '[' :: s => some (.openArray, s)
  | ']' :: s => some (.closeArray, s)
  | '{' :: s => some (.openObject, s)
  | '}' :: s => some (.closeObject, s)
  | ',' :: s => some (.comma, s)
  | ':' :: s => some (.colon, s)
  | 'n' :: 'u' :: 'l' :: 'l' :: s => some (.null, s)
  | 't' :: 'r' :: 'u' :: 'e' :: s => some (.bool true, s)
  | 'f' :: 'a' :: 'l' :: 's' :: 'e' :: s => some (.bool false, s)
  | '"' :: s => (readText? s).map fun (s?, rest) => (.string s?, rest)
  | s => (number? s).map fun (n?, rest) => (.number n?, rest)

theorem token?_length {s t rest} (h : token? s = some (t, rest)) : rest.length < s.length := by
  unfold token? at h
  split at h <;> try (cases h; simp only [List.length_cons]; omega)
  · simp only [Option.map_eq_some_iff, Prod.mk.injEq, Prod.exists] at h
    obtain ⟨_, _, h, -, rfl⟩ := h
    have := readText?_length h
    simp only [List.length_cons]
    omega
  · simp only [Option.map_eq_some_iff, Prod.mk.injEq, Prod.exists] at h
    obtain ⟨_, _, h, -, rfl⟩ := h
    exact number?_length h

def tokens? (s : List Char) : Option (List Token) :=
  match _hs : s.dropWhile isSpace with
  | [] => some []
  | c :: cs =>
    match _ht : token? (c :: cs) with
    | none => none
    | some (t, rest) => (tokens? rest).map (t :: ·)
termination_by s.length
decreasing_by
  have h1 := token?_length _ht
  have h2 := length_dropWhile_le isSpace s
  rw [_hs] at h2
  omega

end JumpArrows.Json
