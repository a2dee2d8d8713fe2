/-! # Sets of code points

A set of code points is listed as its maximal runs, each by its first and last member. -/

namespace JumpArrows.Text

abbrev CodePoints := List (Nat × Nat)

def CodePoints.contains (s : CodePoints) (c : Char) : Bool :=
  s.any fun run => run.1 ≤ c.toNat && c.toNat ≤ run.2

end JumpArrows.Text
