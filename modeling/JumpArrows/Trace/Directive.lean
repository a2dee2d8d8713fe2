import JumpArrows.Trace.Event
import JumpArrows.Text.Alphanumeric
import JumpArrows.Text.Blank
import JumpArrows.Pattern.WellFormed

/-! # Directives

A directive bounds the level of the events that it applies to. It names a verbosity, or the start of
a target, or both; between brackets it may ask for more than a target: for a field by its name, or
for a span by its name or by the value of a field.

The parts of a directive are found in its text without the white space at the ends, but they are
taken from the text with it, each at its distance from the start. So white space in front shifts
every part, and white space at the end belongs to a part that reaches there. -/

namespace JumpArrows

/-! ## Places counted in bytes -/

namespace Text

def byteCount (s : List Char) : Nat :=
  s.foldr (fun c n => c.utf8Size + n) 0

/-- What follows the first `n` bytes of the UTF-8 form. -/
def dropBytes : Nat → List Char → List Char
  | _, [] => []
  | n, c :: s => if n = 0 then c :: s else dropBytes (n - c.utf8Size) s

def takeBytes : Nat → List Char → List Char
  | _, [] => []
  | n, c :: s => if n = 0 then [] else c :: takeBytes (n - c.utf8Size) s

end Text

/-! ## Decimal numerals

A numeral has an optional sign, digits with or without a point among them, and an optional exponent;
the words for infinity and for what is not a number count as numerals, in any letter case. -/

namespace Decimal

def dropSign (s : List Char) : List Char :=
  if s.head? = some '+' ∨ s.head? = some '-' then s.tail else s

def isDigits (s : List Char) : Bool :=
  !s.isEmpty && s.all Char.isDigit

/-- Digits, of which a point may have some on either side. -/
def isMantissa (s : List Char) : Bool :=
  isDigits s || (s.contains '.' && isDigits (s.erase '.'))

def isExponent (c : Char) : Bool :=
  c == 'e' || c == 'E'

def isNumeral (s : List Char) : Bool :=
  let s := dropSign s
  let mantissa := s.takeWhile (!isExponent ·)
  let exponent := s.drop mantissa.length
  [['i', 'n', 'f'], ['i', 'n', 'f', 'i', 'n', 'i', 't', 'y'], ['n', 'a', 'n']].contains
      (s.map Char.toLower) ||
    (isMantissa mantissa && (exponent.isEmpty || isDigits (dropSign exponent.tail)))

end Decimal

/-! ## Parts of a directive -/

/-- How much of the events is let through: the greatest rank of a level, or nothing at all. -/
abbrev Verbosity := Nat

namespace Verbosity

def all : Verbosity :=
  Level.trace.rank

def rank? (word : List Char) : Option Nat :=
  let digits := if word.head? = some '+' then word.tail else word
  if digits ≠ [] ∧ digits.all Char.isDigit then some (Nat.ofDigitChars 10 digits 0) else none

def ofWord? (word : List Char) : Option Verbosity :=
  match rank? word with
  | some n => if n ≤ all then some n else none
  | none =>
    match String.ofList (word.map Char.toLower) with
    | "off" => some 0
    | "error" => some Level.error.rank
    | "warn" => some Level.warn.rank
    | "info" => some Level.info.rank
    | "debug" => some Level.debug.rank
    | "trace" => some Level.trace.rank
    | _ => none

end Verbosity

/-- What a directive asks for besides the target. All events here happen outside of spans. -/
inductive Scope where
  | any
  | field (name : List Char)
  | span
  deriving DecidableEq, Repr

namespace Scope

/-- The scope of a field, which may have a value: a numeral or a pattern. What a second equals sign
leads in is passed over. -/
def ofField? (field : List Char) : Option Scope :=
  let name := field.takeWhile (· ≠ '=')
  match field.drop name.length with
  | [] => if name.isEmpty then none else some (.field name)
  | _ :: s =>
    let value := s.takeWhile (· ≠ '=')
    if Decimal.isNumeral value || Pattern.isWellFormed value then some .span else none

/-- The scope from behind its opening bracket, and what follows the closing one: the name of a
span, then between braces a field. What is taken between two places in the text is up to `cut`. -/
def parse? (cut : List Char → List Char → List Char) (s : List Char) :
    Option (Scope × List Char) :=
  let name := s.takeWhile fun c => c ≠ ']' ∧ c ≠ '\x7b'
  match s.drop name.length with
  | ']' :: rest => some (.span, rest)
  | '\x7b' :: s =>
    let after := s.dropWhile (· ≠ '\x7d')
    match after with
    | '\x7d' :: ']' :: rest =>
      (ofField? (cut s after)).map fun scope => (if name.isEmpty then scope else .span, rest)
    | _ => none
  | _ => none

def admits (scope : Scope) (e : Event) : Bool :=
  match scope with
  | .any => true
  | .field name => e.fieldNames.any (·.toList == name)
  | .span => false

def fieldName : Scope → List Char
  | .field name => name
  | .any | .span => []

end Scope

structure Directive where
  target? : Option (List Char)
  scope : Scope
  verbosity : Verbosity
  deriving DecidableEq, Repr

namespace Directive

def canStart (c : Char) : Bool :=
  Text.isAlphanumeric c || c == '-' || c == ':' || c == '_' || c == '['

/-- What stands in `text` where `trimmed`, which is the same text without the white space at its
ends, has the characters from `start` up to `stop`; both are ends of it. -/
def cut (text trimmed start stop : List Char) : List Char :=
  Text.takeBytes (Text.byteCount start - Text.byteCount stop)
    (Text.dropBytes (Text.byteCount trimmed - Text.byteCount start) text)

def cutFrom (text trimmed start : List Char) : List Char :=
  Text.dropBytes (Text.byteCount trimmed - Text.byteCount start) text

def verbosity? (word : List Char) : Option Verbosity :=
  if word.isEmpty then some Verbosity.all else Verbosity.ofWord? word

def parse? (text : List Char) : Option Directive := do
  let s := Text.trim text
  let rest := s.dropWhile fun c => c ≠ '=' ∧ c ≠ '['
  let target := cut text s s rest
  let target? := if target.isEmpty then none else some target
  if !s.head?.any canStart then none
  else
    match rest with
    | [] =>
      match Verbosity.ofWord? text with
      | some v => return ⟨none, .any, v⟩
      | none => return ⟨some text, .any, .all⟩
    | '[' :: inner =>
      let (scope, rest) ← Scope.parse? (cut text s) inner
      match rest with
      | [] => return ⟨target?, scope, .all⟩
      | '=' :: word => return ⟨target?, scope, ← verbosity? (cutFrom text s word)⟩
      | _ => none
    | _ :: word => return ⟨target?, .any, ← verbosity? (cutFrom text s word)⟩

def appliesTo (d : Directive) (e : Event) : Bool :=
  d.target?.all (·.isPrefixOf e.target.toList) && d.scope.admits e

/-- The length of the target, where any is more than none. -/
def reach (d : Directive) : Nat :=
  (d.target?.map (·.length + 1)).getD 0

/-- True if a directive names its events at least as closely as another one: by a longer target, or
by the same and a field. Of two fields the one whose name sorts last is taken for the closer. -/
def isAsCloseAs (d b : Directive) : Bool :=
  b.reach < d.reach || (b.reach == d.reach && !(d.scope.fieldName < b.scope.fieldName))

end Directive

end JumpArrows
