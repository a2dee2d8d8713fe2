import JumpArrows.Text.Utf8

/-! # Files

A file is what was found under its path: its bytes, or nothing. -/

namespace JumpArrows

/-- The bytes of a file, if there is one. -/
abbrev File := Option (List UInt8)

namespace File

inductive Error where
  | missing
  | notUtf8
  deriving DecidableEq, Repr

def Error.message : Error → String
  | .missing => "I/O error: No such file or directory (os error 2)"
  | .notUtf8 => "I/O error: stream did not contain valid UTF-8"

def bytes (file : File) : Except Error (List UInt8) :=
  match file with
  | some bytes => .ok bytes
  | none => .error .missing

def text (file : File) : Except Error (List Char) := do
  match Utf8.decode? (← file.bytes) with
  | some text => .ok text
  | none => .error .notUtf8

end File

end JumpArrows
