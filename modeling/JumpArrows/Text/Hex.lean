/-! # Hexadecimal numerals

Digits of either letter case, their value, and the literal that an operand may be: an optional
mark `0x` or `0X` in front of one to sixteen digits. Numerals are written in lower case. -/

namespace JumpArrows.Hex

/-- The sixteen digits in lower case, each at the place of its value. -/
def digits : List Char :=
  ['0', '1', '2', '3', '4', '5', '6', '7', '8', '9', 'a', 'b', 'c', 'd', 'e', 'f']

/-- The value of a digit of either case. -/
def digit? (c : Char) : Option Nat :=
  digits.findIdx? (· == c.toLower)

def isDigit (c : Char) : Bool :=
  (digit? c).isSome

def isLowerDigit (c : Char) : Bool :=
  digits.contains c

/-- The value of a numeral, most significant digit first. -/
def value (s : List Char) : Nat :=
  s.foldl (fun v c => 16 * v + (digit? c).getD 0) 0

def numeral (n : Nat) : List Char :=
  Nat.toDigits 16 n

def word? (n : Nat) : Option UInt64 :=
  if h : n < UInt64.size then some (UInt64.ofNatLT n h) else none

def dropMark : List Char → List Char
  | '0' :: 'x' :: s => s
  | '0' :: 'X' :: s => s
  | s => s

/-- The value of a text that is a literal and nothing else. -/
def literal? (s : List Char) : Option UInt64 :=
  let ds := dropMark s
  if ds ≠ [] ∧ ds.length ≤ 16 ∧ ds.all isDigit then word? (value ds) else none

end JumpArrows.Hex
