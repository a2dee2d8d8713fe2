import JumpArrows.Json.Value

/-! # Reading data from JSON values

A decoder takes a value to a datum or refuses it. Records are given as objects, whose members stand
in any order among members of other names, or as arrays, whose items stand in the order of the
names. -/

namespace JumpArrows.Json

def text? : Json → Option String
  | .string s => some s
  | _ => none

/-- A text of exactly one character. -/
def char? (v : Json) : Option Char :=
  match (text? v).map String.toList with
  | some [c] => some c
  | _ => none

def bool? : Json → Option Bool
  | .bool b => some b
  | _ => none

/-- A natural number that fits in 64 bits. -/
def natural? : Json → Option Nat
  | .natural n => if n < UInt64.size then some n else none
  | _ => none

def word? (v : Json) : Option UInt64 :=
  (natural? v).map UInt64.ofNat

def list? {α : Type} (item? : Json → Option α) : Json → Option (List α)
  | .array items => items.mapM item?
  | _ => none

/-- Also accepts `null`, for an absent datum. -/
def nullable? {α : Type} (datum? : Json → Option α) : Json → Option (Option α)
  | .null => some none
  | v => (datum? v).map some

/-- One of a few named cases: its name, or an object with the name as its only key and `null`. -/
def case? {α : Type} (cases : List (String × α)) : Json → Option α
  | .string name => cases.lookup name
  | .object [(some name, .null)] => cases.lookup name
  | _ => none

abbrev Fields := List (String × Json)

/-- The members that bear one of the names. All keys must be proper texts, and none of the names
may be used twice. -/
def members? (names : List String) (members : List (Option String × Json)) : Option Fields := do
  let named ← members.mapM fun (key?, v) => key?.map (·, v)
  let known := named.filter fun m => names.contains m.1
  if (known.map Prod.fst).Nodup then some known else none

/-- The fields of a record with the given names. An array may stop early if `partly` is set. -/
def fields? (names : List String) (partly : Bool) : Json → Option Fields
  | .object members => members? names members
  | .array items =>
    if items.length = names.length ∨ (partly ∧ items.length < names.length)
    then some (names.zip items) else none
  | _ => none

def Fields.require {α : Type} (fields : Fields) (name : String) (datum? : Json → Option α) :
    Option α :=
  (fields.lookup name).bind datum?

/-- A field that has a value of its own when it is left out. -/
def Fields.getOr {α : Type} (fields : Fields) (name : String) (datum? : Json → Option α)
    (absent : α) : Option α :=
  match fields.lookup name with
  | some v => datum? v
  | none => some absent

end JumpArrows.Json
