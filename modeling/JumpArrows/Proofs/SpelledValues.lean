import JumpArrows.Json.Reader
import JumpArrows.Proofs.SpelledTokens

/-! # The spellings of JSON values

A value is a row of tokens, whatever its depth, and the reader takes it from any spelling of this
row. No two numbers stand next to each other in it, so a numeral always ends where it should. -/

namespace JumpArrows.Json

/-! ## Values as rows of tokens -/

mutual

def tokens : Json → List Token
  | .null => [.null]
  | .bool b => [.bool b]
  | .natural n => [.number (some n)]
  | .otherNumber => [.number none]
  | .string s => [.string (some s)]
  | .brokenString => [.string none]
  | .array [] => [.openArray, .closeArray]
  | .array (v :: vs) => .openArray :: (tokens v ++ (itemTokens vs ++ [.closeArray]))
  | .object [] => [.openObject, .closeObject]
  | .object ((k, v) :: ms) =>
    .openObject :: .string k :: .colon :: (tokens v ++ (memberTokens ms ++ [.closeObject]))

/-- The tokens of items behind another one. -/
def itemTokens : List Json → List Token
  | [] => []
  | v :: vs => .comma :: (tokens v ++ itemTokens vs)

def memberTokens : List (Option String × Json) → List Token
  | [] => []
  | (k, v) :: ms => .comma :: .string k :: .colon :: (tokens v ++ memberTokens ms)

end

/-- A value does not start like the end of an array. -/
theorem head_tokens (v : Json) : ∃ t ts, v.tokens = t :: ts ∧ t ≠ .closeArray := by
  cases v with
  | array items => cases items <;> simp [tokens]
  | object members => cases members <;> simp [tokens]
  | _ => simp [tokens]

/-- An array with a first item is read from that item on. -/
theorem readValue_openArray (v : Json) (ts : List Token) (outer : List Frame) :
    readValue (.openArray :: (v.tokens ++ ts)) outer =
      readValue (v.tokens ++ ts) (.array [] :: outer) := by
  obtain ⟨t, us, htokens, ht⟩ := head_tokens v
  rw [htokens, List.cons_append, readValue]
  simpa using ht

mutual

/-- The reader takes a value from the front of a row of tokens and goes on behind it. -/
theorem readValue_tokens (v : Json) (ts : List Token) (outer : List Frame) :
    readValue (v.tokens ++ ts) outer = readOn v ts outer := by
  match v with
  | .null | .bool _ | .natural _ | .otherNumber | .string _ | .brokenString =>
    simp [tokens, readValue, ofText?, ofNumeral?]
  | .array [] => simp [tokens, readValue]
  | .object [] => simp [tokens, readValue]
  | .array (v :: vs) =>
    rw [tokens, List.cons_append, List.append_assoc, readValue_openArray, readValue_tokens v,
      List.append_assoc]
    exact readOn_itemTokens vs v [] ts outer
  | .object ((k, v) :: ms) =>
    rw [tokens, List.cons_append, List.cons_append, List.cons_append, List.append_assoc, readValue,
      readValue_tokens v, List.append_assoc]
    exact readOn_memberTokens ms k v [] ts outer

/-- Behind an item, the reader takes the other items of its array. -/
theorem readOn_itemTokens (vs : List Json) (v : Json) (done : List Json) (ts : List Token)
    (outer : List Frame) :
    readOn v (itemTokens vs ++ .closeArray :: ts) (.array done :: outer) =
      readOn (.array (done.reverse ++ v :: vs)) ts outer := by
  match vs with
  | [] => rw [itemTokens, List.nil_append, readOn, List.reverse_cons]
  | w :: vs =>
    rw [itemTokens, List.cons_append, List.append_assoc, readOn, readValue_tokens w,
      readOn_itemTokens vs, List.reverse_cons, List.append_assoc, List.singleton_append]

/-- Behind a member, the reader takes the other members of its object. -/
theorem readOn_memberTokens (ms : List (Option String × Json)) (k : Option String) (v : Json)
    (done : List (Option String × Json)) (ts : List Token) (outer : List Frame) :
    readOn v (memberTokens ms ++ .closeObject :: ts) (.object done k :: outer) =
      readOn (.object (done.reverse ++ (k, v) :: ms)) ts outer := by
  match ms with
  | [] => rw [memberTokens, List.nil_append, readOn, List.reverse_cons]
  | (l, w) :: ms =>
    rw [memberTokens, List.cons_append, List.cons_append, List.cons_append, List.append_assoc,
      readOn, readValue_tokens w, readOn_memberTokens ms, List.reverse_cons, List.append_assoc,
      List.singleton_append]

end

/-! ## Numbers stand apart -/

/-- The row has no two numbers next to each other, also not if a number is put in front. -/
structure FollowsNumber (ts : List Token) : Prop where
  chain : ts.IsChain Token.Apart
  head : ∀ t ∈ ts.head?, t.isNumber = false

theorem isChain_cons {t : Token} {ts : List Token} (ht : t.isNumber = false)
    (hts : ts.IsChain Token.Apart) : (t :: ts).IsChain Token.Apart :=
  List.isChain_cons.mpr ⟨fun _ _ h => absurd h.1 (by simp [ht]), hts⟩

theorem followsNumber_cons {t : Token} {ts : List Token} (ht : t.isNumber = false)
    (hts : ts.IsChain Token.Apart) : FollowsNumber (t :: ts) where
  chain := isChain_cons ht hts
  head u hu := by
    obtain rfl : t = u := by simpa using hu
    exact ht

mutual

theorem isChain_tokens (v : Json) {ts : List Token} (h : FollowsNumber ts) :
    (v.tokens ++ ts).IsChain Token.Apart := by
  match v with
  | .natural _ | .otherNumber =>
    refine List.isChain_cons.mpr ⟨fun u hu hboth => ?_, h.chain⟩
    exact absurd hboth.2 (by simp [h.head u hu])
  | .null | .bool _ | .string _ | .brokenString => exact isChain_cons rfl h.chain
  | .array [] | .object [] => exact isChain_cons rfl (isChain_cons rfl h.chain)
  | .array (v :: vs) =>
    have hclose : FollowsNumber (.closeArray :: ts) := followsNumber_cons rfl h.chain
    rw [tokens, List.cons_append, List.append_assoc, List.append_assoc]
    exact isChain_cons rfl (isChain_tokens v (followsNumber_itemTokens vs hclose))
  | .object ((k, v) :: ms) =>
    have hclose : FollowsNumber (.closeObject :: ts) := followsNumber_cons rfl h.chain
    have hmembers := isChain_tokens v (followsNumber_memberTokens ms hclose)
    rw [tokens, List.cons_append, List.cons_append, List.cons_append, List.append_assoc,
      List.append_assoc]
    exact isChain_cons rfl (isChain_cons rfl (isChain_cons rfl hmembers))

theorem followsNumber_itemTokens (vs : List Json) {ts : List Token} (h : FollowsNumber ts) :
    FollowsNumber (itemTokens vs ++ ts) := by
  match vs with
  | [] => exact h
  | v :: vs =>
    rw [itemTokens, List.cons_append, List.append_assoc]
    exact followsNumber_cons rfl (isChain_tokens v (followsNumber_itemTokens vs h))

theorem followsNumber_memberTokens (ms : List (Option String × Json)) {ts : List Token}
    (h : FollowsNumber ts) : FollowsNumber (memberTokens ms ++ ts) := by
  match ms with
  | [] => exact h
  | (k, v) :: ms =>
    have hmembers := isChain_tokens v (followsNumber_memberTokens ms h)
    rw [memberTokens, List.cons_append, List.cons_append, List.cons_append, List.append_assoc]
    exact followsNumber_cons rfl (isChain_cons rfl (isChain_cons rfl hmembers))

end

/-! ## Spellings of values -/

/-- The ways to write a value: its tokens, each in any of its spellings, with any white space
before, between and behind them. -/
def SpelledAs (v : Json) (text : List Char) : Prop :=
  TokensSpelledAs v.tokens text

/-- A value is read from each of its spellings. -/
theorem parse?_of_spelledAs {v : Json} {text : List Char} (h : v.SpelledAs text) :
    parse? text = some v := by
  have hend : FollowsNumber [] := ⟨.nil, by simp⟩
  have hchain := isChain_tokens v hend
  have hread := readValue_tokens v [] []
  rw [List.append_nil] at hchain hread
  rw [parse?, tokens?_of_spelledAs h hchain, Option.bind_eq_bind, Option.bind_some, hread, readOn]

end JumpArrows.Json
