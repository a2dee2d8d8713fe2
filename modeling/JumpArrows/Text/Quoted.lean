import JumpArrows.Text.Hex
import JumpArrows.Text.Invisible
import JumpArrows.Text.Combining

/-! # Quoted text

Text in messages stands between quotes. The quote itself, the backslash and the characters that
would not be seen are written as escapes: short ones where there are some, the code point in
braces for the others. -/

namespace JumpArrows.Quoted

/-- A character as it stands between quotes of the given kind. -/
def escape (quote c : Char) : List Char :=
  if c = '\x00' then ['\\', '0']
  else if c = '\t' then ['\\', 't']
  else if c = '\r' then ['\\', 'r']
  else if c = '\n' then ['\\', 'n']
  else if c = '\\' then ['\\', '\\']
  else if c = quote then ['\\', c]
  else if Text.isCombining c || Text.isInvisible c then
    ['\\', 'u', '\x7b'] ++ Hex.numeral c.toNat ++ ['\x7d']
  else [c]

def char (c : Char) : String :=
  String.ofList ('\'' :: escape '\'' c ++ ['\''])

def string (s : String) : String :=
  String.ofList ('"' :: s.toList.flatMap (escape '"') ++ ['"'])

end JumpArrows.Quoted
