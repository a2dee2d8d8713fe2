import JumpArrows.Json.Value
import JumpArrows.Json.Token

/-! # Reading JSON

One pass over the tokens with the arrays and objects that are still open on a stack, so a value
may be nested to any depth. Each token is looked at once. -/

namespace JumpArrows.Json

/-- An array or object that is still open, with its finished parts in reverse. An object also
holds the key of the member being read. -/
inductive Frame where
  | array (done : List Json)
  | object (done : List (Option String × Json)) (key : Option String)

mutual

def readValue : List Token → List Frame → Option Json
  | .null :: ts, outer => readOn .null ts outer
  | .bool b :: ts, outer => readOn (.bool b) ts outer
  | .number n? :: ts, outer => readOn (ofNumeral? n?) ts outer
  | .string s? :: ts, outer => readOn (ofText? s?) ts outer
  | .openArray :: .closeArray :: ts, outer => readOn (.array []) ts outer
  | .openArray :: ts, outer => readValue ts (.array [] :: outer)
  | .openObject :: .closeObject :: ts, outer => readOn (.object []) ts outer
  | .openObject :: .string key :: .colon :: ts, outer => readValue ts (.object [] key :: outer)
  | _, _ => none

/-- Goes on behind a finished value: it is the whole, or belongs to the innermost open frame. -/
def readOn (v : Json) : List Token → List Frame → Option Json
  | [], [] => some v
  | .comma :: ts, .array done :: outer => readValue ts (.array (v :: done) :: outer)
  | .closeArray :: ts, .array done :: outer => readOn (.array (v :: done).reverse) ts outer
  | .comma :: .string key :: .colon :: ts, .object done k :: outer =>
    readValue ts (.object ((k, v) :: done) key :: outer)
  | .closeObject :: ts, .object done k :: outer =>
    readOn (.object ((k, v) :: done).reverse) ts outer
  | _, _ => none

end

/-- The value of a text that is one JSON value and nothing else but white space. -/
def parse? (text : List Char) : Option Json := do
  readValue (← tokens? text) []

end JumpArrows.Json
