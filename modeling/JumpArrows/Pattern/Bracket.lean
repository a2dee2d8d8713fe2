import JumpArrows.Pattern.Escape

/-! # Sets between brackets

A set lists characters, ranges and other sets, and may join several such lists by operators. -/

namespace JumpArrows.Pattern

/-- A set that is still open: the height of what stands in front of the last operator, the heights
of the members behind it, and whether only hyphens have been read, which here stand for
themselves. -/
structure Bracket where
  operand? : Option Nat
  members : List Nat
  fresh : Bool
  deriving DecidableEq, Repr

namespace Bracket

def names : List String :=
  ["alnum", "alpha", "ascii", "blank", "cntrl", "digit", "graph", "lower", "print", "punct",
    "space", "upper", "word", "xdigit"]

def empty : Bracket :=
  ⟨none, [], true⟩

def add (b : Bracket) (height : Nat) : Bracket :=
  { b with members := height :: b.members, fresh := false }

def height (b : Bracket) : Nat :=
  match b.operand? with
  | none => rowHeight b.members
  | some h => max h (rowHeight b.members) + 1

def operate (b : Bracket) : Bracket :=
  ⟨some b.height, [], false⟩

def open? (mode : Mode) (s : List Char) : Option (Bracket × List Char) :=
  match mode.skip s with
  | '^' :: rest => if mode.unicode then some (empty, rest) else none
  | rest => some (empty, rest)

/-- A named set from behind its opening bracket: whether it is turned into its complement, and what
follows it. -/
def named? (s : List Char) : Option (Bool × List Char) :=
  let find (complement : Bool) (s : List Char) : Option (Bool × List Char) :=
    let name := s.takeWhile (· ≠ ':')
    match s.drop name.length with
    | ':' :: ']' :: rest =>
      if names.contains (String.ofList name) then some (complement, rest) else none
    | _ => none
  match s with
  | ':' :: '^' :: s => find true s
  | ':' :: s => find false s
  | _ => none

def single? (mode : Mode) : List Char → Option (Escape × List Char)
  | [] => none
  | '\\' :: s => Escape.parse? mode s
  | c :: s => some (.char c, s)

/-- What follows a member that is a character, an escape for a set, or a range of characters. -/
def afterMember? (mode : Mode) (s : List Char) : Option (List Char) := do
  let (first, s) ← single? mode s
  let alone (rest : List Char) : Option (List Char) :=
    match first with
    | .char c => if mode.admits c then some rest else none
    | .set => some rest
    | .place => none
  match mode.skip s with
  | '-' :: s =>
    if mode.ahead? s = some ']' ∨ mode.ahead? s = some '-' then alone ('-' :: s)
    else do
      let (last, rest) ← single? mode (mode.skip s)
      match first, last with
      | .char a, .char b => if a ≤ b ∧ mode.admits a ∧ mode.admits b then some rest else none
      | _, _ => none
  | rest => alone rest

/-- Reads on in the innermost of the open sets. The last of them is no set itself but holds the
one that is being read when it is complete. -/
def step? (mode : Mode) (opened : List Bracket) (s : List Char) :
    Option (List Bracket × List Char) :=
  match opened with
  | here :: holder :: outer =>
    match mode.skip s with
    | [] => none
    | '[' :: s =>
      match named? s with
      | some (complement, rest) =>
        if complement && !mode.unicode then none else some (here.add 0 :: holder :: outer, rest)
      | none => (open? mode s).map fun (b, rest) => (b :: here :: holder :: outer, rest)
    | c :: s =>
      if here.fresh && c == '-' then
        some ({ here with members := 0 :: here.members } :: holder :: outer, s)
      else if c = ']' then
        if here.fresh && here.members.isEmpty then some (here.add 0 :: holder :: outer, s)
        else some (holder.add (here.height + 1) :: outer, s)
      else if (c = '&' ∨ c = '-' ∨ c = '~') ∧ s.head? = some c then
        some (here.operate :: holder :: outer, s.tail)
      else (afterMember? mode (c :: s)).map fun rest => (here.add 0 :: holder :: outer, rest)
  | _ => none

/-- The height of the set that the open ones come to, and what follows it. -/
def close? (mode : Mode) (opened : List Bracket) (s : List Char) : Option (Nat × List Char) :=
  match opened with
  | [holder] => some (rowHeight holder.members, s)
  | _ =>
    match step? mode opened s with
    | none => none
    | some (opened, rest) => if _h : rest.length < s.length then close? mode opened rest else none
termination_by s.length

def parse? (mode : Mode) (s : List Char) : Option (Nat × List Char) := do
  let (b, rest) ← open? mode s
  close? mode [b, empty] rest

end Bracket

end JumpArrows.Pattern
