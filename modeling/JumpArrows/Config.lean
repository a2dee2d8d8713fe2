import JumpArrows.Text.Blank
import JumpArrows.Text.Quoted
import JumpArrows.Margin.Glyph

/-! # Configuration

What is drawn with which characters, which mnemonics jump, and what becomes of a jump to its own
row. A configuration is sound if every prefix can match and no track looks like a blank. -/

namespace JumpArrows

/-- What becomes of a jump to its own row: it is an edge of one row, or it is left out. -/
inductive LoopPolicy where
  | marker
  | drop
  deriving DecidableEq, Repr

structure Config where
  alphabet : Alphabet := .boxes
  loops : LoopPolicy := .marker
  jumpPrefixes : List String := ["j"]
  /-- A hint that routines may be laid out at once; see `Layout.ofRecords`. -/
  parallel : Bool := false
  deriving DecidableEq, Repr

namespace Config

inductive Fault where
  | blankJumpPrefix
  | blankIsTrack (blank : Char)
  deriving DecidableEq, Repr

def Fault.message : Fault → String
  | .blankJumpPrefix => "Configuration error: jump prefixes must not be empty"
  | .blankIsTrack blank =>
    "Configuration error: blank glyph " ++ Quoted.char blank ++ " collides with a track glyph"

/-- The first fault of a configuration, prefixes before characters. -/
def fault? (config : Config) : Option Fault :=
  let a := config.alphabet
  if config.jumpPrefixes.any fun p => Text.isBlankText p.toList then some .blankJumpPrefix
  else if a.blank = a.vertical ∨ a.blank = a.cornerDown ∨ a.blank = a.cornerUp then
    some (.blankIsTrack a.blank)
  else none

/-- True of the mnemonics that start with a jump prefix. Only ASCII letters match regardless of
case. -/
def isJump (config : Config) (mnemonic : String) : Bool :=
  let m := mnemonic.toList.map Char.toLower
  config.jumpPrefixes.any fun p => (p.toList.map Char.toLower).isPrefixOf m

end Config

end JumpArrows
