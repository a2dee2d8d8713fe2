import JumpArrows.Listing.Block
import JumpArrows.Json.Decoder
import JumpArrows.Json.Writer

/-! # Records, instructions and blocks as JSON -/

namespace JumpArrows

namespace Json

def ofString? (s? : Option String) : Json :=
  (s?.map .string).getD .null

end Json

namespace Record

def toJson (r : Record) : Json :=
  .record [("fields", .array (r.fields.map .string)), ("raw", .string r.raw)]

def ofJson? (v : Json) : Option Record := do
  let fields ← v.fields? ["fields", "raw"] false
  let texts ← fields.require "fields" (Json.list? Json.text?)
  let raw ← fields.require "raw" Json.text?
  return ⟨texts, raw⟩

end Record

namespace Instruction

def toJson (i : Instruction) : Json :=
  .record
    [("index", .natural i.index), ("address", .natural i.address.toNat),
      ("mnemonic", .ofString? i.mnemonic), ("operand_text", .ofString? i.operands)]

/-- An instruction. Mnemonic and operands may be left out of an object, but not of an array. -/
def ofJson? (v : Json) : Option Instruction := do
  let fields ← v.fields? ["index", "address", "mnemonic", "operand_text"] false
  let index ← fields.require "index" Json.natural?
  let address ← fields.require "address" Json.word?
  let mnemonic ← fields.getOr "mnemonic" (Json.nullable? Json.text?) none
  let operands ← fields.getOr "operand_text" (Json.nullable? Json.text?) none
  return { index, address, mnemonic, operands }

end Instruction

namespace Routine

def toJson (r : Routine) : Json :=
  .record
    [("label", .ofString? r.label), ("address", .natural r.address.toNat),
      ("header", (r.header.map .natural).getD .null),
      ("lines", .array (r.lines.map Instruction.toJson)),
      ("rows", .array (r.rows.map .natural))]

end Routine

namespace Block

def toJson : Block → Json
  | .routine r => .record [("Function", r.toJson)]
  | .passThrough row => .record [("PassThrough", .natural row)]

end Block

end JumpArrows
