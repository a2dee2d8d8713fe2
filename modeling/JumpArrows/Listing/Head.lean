import JumpArrows.Text.Hex

/-! # Heads of lines

The first field of a line tells what the line is. A routine's header starts with sixteen lower
case digits, a space and a label in angle brackets; an instruction starts with its address, a run
of at least four lower case digits, and a colon. Whatever follows is free. -/

namespace JumpArrows.Head

/-- The parts of a header: the digits of its address and the label. -/
structure Header where
  digits : List Char
  label : List Char
  deriving DecidableEq, Repr

def header? (head : List Char) : Option Header :=
  let digits := head.take 16
  if digits.length = 16 ∧ digits.all Hex.isLowerDigit then
    match head.drop 16 with
    | ' ' :: '<' :: rest =>
      let label := rest.takeWhile (· ≠ '>')
      if label.length < rest.length then some ⟨digits, label⟩ else none
    | _ => none
  else none

/-- The text that a header covers. -/
def Header.text (h : Header) : List Char :=
  h.digits ++ ' ' :: '<' :: h.label ++ ['>']

def address? (head : List Char) : Option (List Char) :=
  let digits := head.takeWhile Hex.isLowerDigit
  if 4 ≤ digits.length ∧ (head.drop digits.length).head? = some ':' then some digits else none

def addressText (digits : List Char) : List Char :=
  digits ++ [':']

end JumpArrows.Head
