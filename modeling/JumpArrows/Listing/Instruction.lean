import JumpArrows.Text.Blank
import JumpArrows.Text.Hex
import JumpArrows.Config

/-! # Instructions

An instruction's text is a mnemonic, white space and operands. A jump is an instruction whose
mnemonic the configuration knows and whose first operand is a literal: the address it leads to. -/

namespace JumpArrows

structure Instruction where
  index : Nat
  address : UInt64
  mnemonic : Option String
  operands : Option String
  deriving DecidableEq, Repr

namespace Instruction

/-- A text that is absent if there is nothing in it. -/
def present? (s : List Char) : Option String :=
  if s.isEmpty then none else some (String.ofList s)

def ofText (index : Nat) (address : UInt64) (text? : Option String) : Instruction :=
  let text := Text.trim ((text?.getD "").toList)
  { index, address
    mnemonic := present? (Text.beforeBlank text)
    operands := present? (Text.trim (Text.afterBlank text)) }

/-- True of a line that has no instruction, such as one of further bytes. -/
def isPlaceholder (i : Instruction) : Bool :=
  i.mnemonic.isNone

/-- The value of operands whose first word, up to its first comma, is a literal. -/
def literalOf? (operands : List Char) : Option UInt64 :=
  Hex.literal? ((Text.firstWord operands).takeWhile (· ≠ ','))

def literal? (i : Instruction) : Option UInt64 :=
  i.operands.bind fun operands => literalOf? operands.toList

def target? (config : Config) (i : Instruction) : Option UInt64 :=
  if i.mnemonic.any config.isJump then i.literal? else none

def display (i : Instruction) : String :=
  let part (text? : Option String) : List Char := (text?.map fun t => ' ' :: t.toList).getD []
  String.ofList (Hex.numeral i.address.toNat ++ ':' :: part i.mnemonic ++ part i.operands)

end Instruction

end JumpArrows
