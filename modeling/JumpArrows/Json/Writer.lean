import JumpArrows.Json.Value
import JumpArrows.Json.Text
import JumpArrows.Json.Numeral

/-! # Writing JSON

The compact form: no white space, members in order. A number or a string without content is written
as one of its kind, so every value that is written can be read back. -/

namespace JumpArrows.Json

mutual

def write : Json → List Char
  | .null => ['n', 'u', 'l', 'l']
  | .bool true => ['t', 'r', 'u', 'e']
  | .bool false => ['f', 'a', 'l', 's', 'e']
  | .natural n => writeNatural n
  | .otherNumber => ['-', '0']
  | .string s => writeText (some s)
  | .brokenString => writeText none
  | .array [] => ['[', ']']
  | .array (v :: vs) => '[' :: write v ++ writeItems vs ++ [']']
  | .object [] => ['{', '}']
  | .object ((k, v) :: ms) => '{' :: writeText k ++ ':' :: write v ++ writeMembers ms ++ ['}']

/-- Items behind another one. -/
def writeItems : List Json → List Char
  | [] => []
  | v :: vs => ',' :: write v ++ writeItems vs

def writeMembers : List (Option String × Json) → List Char
  | [] => []
  | (k, v) :: ms => ',' :: writeText k ++ ':' :: write v ++ writeMembers ms

end

def compact (v : Json) : String :=
  String.ofList (write v)

end JumpArrows.Json
