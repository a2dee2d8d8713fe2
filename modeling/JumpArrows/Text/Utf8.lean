/-! # Decoding UTF-8

A machine that takes one byte at a time. It yields the characters of the well-formed sequences and,
for each longest beginning of one that goes wrong, a gap. A byte that ends a sequence too early is
looked at again as a first byte, so no byte that could start a character is swallowed. -/

namespace JumpArrows.Utf8

/-- Where the machine stands: between two sequences, or inside one, whose next byte lies from `lo`
to `hi` with `more` bytes behind it, while `code` holds the bits so far. -/
inductive State where
  | between
  | inside (lo hi more code : Nat)
  deriving DecidableEq, Repr

/-- A decoded character, or a gap where nothing could be decoded. -/
abbrev Piece := Option Char

/-- The state after a first byte, and what it yields. -/
def first (b : Nat) : State × List Piece :=
  if b < 0x80 then (.between, [some (Char.ofNat b)])
  else if 0xC2 ≤ b ∧ b ≤ 0xDF then (.inside 0x80 0xBF 0 (b - 0xC0), [])
  else if b = 0xE0 then (.inside 0xA0 0xBF 1 0x0, [])
  else if b = 0xED then (.inside 0x80 0x9F 1 0xD, [])
  else if 0xE1 ≤ b ∧ b ≤ 0xEF then (.inside 0x80 0xBF 1 (b - 0xE0), [])
  else if b = 0xF0 then (.inside 0x90 0xBF 2 0x0, [])
  else if 0xF1 ≤ b ∧ b ≤ 0xF3 then (.inside 0x80 0xBF 2 (b - 0xF0), [])
  else if b = 0xF4 then (.inside 0x80 0x8F 2 0x4, [])
  else (.between, [none])

def step : State → Nat → State × List Piece
  | .between, b => first b
  | .inside lo hi more code, b =>
    if lo ≤ b ∧ b ≤ hi then
      let code := 0x40 * code + (b - 0x80)
      match more with
      | 0 => (.between, [some (Char.ofNat code)])
      | more + 1 => (.inside 0x80 0xBF more code, [])
    else
      let next := first b
      (next.1, none :: next.2)

def finish : State → List Piece
  | .between => []
  | .inside .. => [none]

def run (state : State) : List UInt8 → List Piece
  | [] => finish state
  | b :: bytes => (step state b.toNat).2 ++ run (step state b.toNat).1 bytes

def pieces (bytes : List UInt8) : List Piece :=
  run .between bytes

/-- The text of any bytes, with a replacement character for each gap. -/
def decodeLossy (bytes : List UInt8) : List Char :=
  (pieces bytes).map (·.getD '\uFFFD')

/-- The text of bytes that are UTF-8 throughout. -/
def decode? (bytes : List UInt8) : Option (List Char) :=
  (pieces bytes).mapM id

end JumpArrows.Utf8
