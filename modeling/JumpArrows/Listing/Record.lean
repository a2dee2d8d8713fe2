import JumpArrows.Text.Blank
import JumpArrows.Text.Lines
import JumpArrows.File
import JumpArrows.Listing.Head

/-! # Records

A record is one line of a listing: the line as it came, and its fields. The fields of a line are
the trimmed pieces between its tabs. A listing can be read from a text or from bytes; in bytes,
what is not UTF-8 is replaced and never refused. -/

namespace JumpArrows

structure Record where
  fields : List String
  raw : String
  deriving DecidableEq, Repr

namespace Record

/-- A record of given fields; its line is the fields with tabs between them. -/
def ofFields (fields : List String) : Record :=
  ⟨fields, "\t".intercalate fields⟩

/-- The record of a line, whose line ends at the end are dropped. -/
def ofLine (line : List Char) : Record :=
  let raw := Text.dropEndWhile Text.isLineEnd line
  ⟨(raw.splitOn '\t').map fun field => String.ofList (Text.trim field), String.ofList raw⟩

def ofText (text : String) : List Record :=
  (Text.lines text.toList).map ofLine

/-- The records of a listing in bytes, of which each line is decoded by itself, its line feed
with it. -/
def ofBytes (bytes : List UInt8) : List Record :=
  (Text.cutLines 0x0A bytes).map fun line => ofLine (Utf8.decodeLossy line)

def ofFile (file : File) : Except File.Error (List Record) :=
  file.bytes.map ofBytes

/-- The text of the instruction, which is the third field unless that is blank. -/
def text? (record : Record) : Option String :=
  record.fields[2]?.filter fun text => !Text.isBlankText text.toList

inductive Kind where
  | instruction (address : UInt64)
  | header (address : UInt64) (label : String)
  | other
  deriving DecidableEq, Repr

/-- What the first field of a line announces. An instruction's address must fit in 64 bits. -/
def Kind.ofHead (head : List Char) : Kind :=
  match (Head.header? head).bind fun h => (Hex.word? (Hex.value h.digits)).map (·, h.label) with
  | some (address, label) => .header address (String.ofList label)
  | none =>
    match (Head.address? head).bind fun digits => Hex.word? (Hex.value digits) with
    | some address => .instruction address
    | none => .other

def kind (record : Record) : Kind :=
  match record.fields.head? with
  | some head => .ofHead head.toList
  | none => .other

end Record

end JumpArrows
