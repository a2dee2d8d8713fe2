/-! # JSON values

A value holds what a reader can ask of it. Numbers other than plain natural numerals and strings
with a surrogate that has no partner are well formed, yet nothing can be read from them, so they
stand without content. Members keep their order and may repeat a key. -/

namespace JumpArrows

inductive Json where
  | null
  | bool (b : Bool)
  | natural (n : Nat)
  | otherNumber
  | string (s : String)
  | brokenString
  | array (items : List Json)
  | object (members : List (Option String × Json))
  deriving Repr, Inhabited

namespace Json

def ofText? : Option String → Json
  | some s => .string s
  | none => .brokenString

def ofNumeral? : Option Nat → Json
  | some n => .natural n
  | none => .otherNumber

/-- An object whose keys are all proper texts. -/
def record (members : List (String × Json)) : Json :=
  .object (members.map fun m => (some m.1, m.2))

end Json

end JumpArrows
