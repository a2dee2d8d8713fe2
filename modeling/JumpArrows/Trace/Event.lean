import JumpArrows.Jump.Edge
import JumpArrows.Jump.Finding
import JumpArrows.Text.Quoted

/-! # Events

What the parts of the program report while they work. An event has a level, a target that names the
part that reports it, a message and named fields; it can be shown as one line of text. -/

namespace JumpArrows

inductive Level where
  | error
  | warn
  | info
  | debug
  | trace
  deriving DecidableEq, Repr

namespace Level

def rank : Level → Nat
  | .error => 1
  | .warn => 2
  | .info => 3
  | .debug => 4
  | .trace => 5

def name : Level → String
  | .error => "ERROR"
  | .warn => "WARN"
  | .info => "INFO"
  | .debug => "DEBUG"
  | .trace => "TRACE"

end Level

inductive Format where
  | text
  | json
  deriving DecidableEq, Repr

inductive Event where
  | started (format : Format)
  | functionHeader (label : String) (address : UInt64)
  | headerless (address : UInt64)
  | loopDropped (row : Nat)
  | resolved (source target : Nat)
  | unresolved (pass : Pass) (count : Nat)
  | outsideGrid (edge : Edge) (rows : Nat)
  | laidOut (label : Option String) (address : UInt64) (instructions edges depth : Nat)
  deriving DecidableEq, Repr

/-- The content of a field. A text is shown as it is or between quotes. -/
inductive FieldValue where
  | number (n : Nat)
  | plain (s : String)
  | quoted (s : String)
  deriving DecidableEq, Repr

namespace FieldValue

def bare : FieldValue → String
  | .number n => toString n
  | .plain s | .quoted s => s

def shown : FieldValue → String
  | .quoted s => Quoted.string s
  | value => value.bare

end FieldValue

namespace Event

def level : Event → Level
  | .started _ => .info
  | .outsideGrid .. | .laidOut .. => .debug
  | _ => .trace

def target : Event → String
  | .started _ => "flowlines::logging"
  | .functionHeader .. | .headerless _ => "flowlines::listing::classify"
  | .loopDropped _ | .resolved .. | .unresolved .. => "flowlines::analysis::edges"
  | .outsideGrid .. => "flowlines::analysis::tracks"
  | .laidOut .. => "flowlines::annotate"

def message : Event → String
  | .started .text => "flowlines tracing initialized"
  | .started .json => "flowlines tracing initialized (JSON mode)"
  | .functionHeader .. => "function header"
  | .headerless _ => "instruction run without header"
  | .loopDropped _ => "dropping self loop"
  | .resolved .. => "resolved jump"
  | .unresolved .. => "jumps leave the function"
  | .outsideGrid .. => "edge outside grid, skipped"
  | .laidOut .. => "laid out function"

def fields : Event → List (String × FieldValue)
  | .started _ => []
  | .functionHeader label address =>
    [("label", .plain label), ("address", .number address.toNat)]
  | .headerless address => [("address", .number address.toNat)]
  | .loopDropped row => [("index", .number row)]
  | .resolved source target => [("source", .number source), ("target", .number target)]
  | .unresolved pass count =>
    [("pass", .quoted (match pass with | .backward => "backward" | .forward => "forward")),
      ("dropped", .number count)]
  | .outsideGrid edge rows => [("edge", .plain edge.display), ("rows", .number rows)]
  | .laidOut label address instructions edges depth =>
    [("label", .quoted (label.getD "?")), ("address", .number address.toNat),
      ("instructions", .number instructions), ("edges", .number edges), ("depth", .number depth)]

/-- The names of the fields. The message is a field too. -/
def fieldNames (e : Event) : List String :=
  "message" :: e.fields.map Prod.fst

/-- The event in one line: the message, then each field as name and content. -/
def line (e : Event) : String :=
  e.message ++ String.join (e.fields.map fun (name, value) => " " ++ name ++ "=" ++ value.shown)

end Event

end JumpArrows
