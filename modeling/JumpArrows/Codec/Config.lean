import JumpArrows.Config
import JumpArrows.Json.Decoder
import JumpArrows.Json.Reader
import JumpArrows.Json.Writer
import JumpArrows.File

/-! # Configurations as JSON

Every field may be left out and then has its default, so a configuration in JSON names only what it
changes. A glyph is given by its name. -/

namespace JumpArrows

namespace Glyph

def names : List (String × Glyph) :=
  [("empty", .empty), ("vertical", .vertical), ("corner_up", .cornerUp),
    ("corner_down", .cornerDown), ("horizontal", .horizontal), ("entry_marker", .entryMarker),
    ("exit_marker", .exitMarker)]

def name : Glyph → String
  | .empty => "empty"
  | .vertical => "vertical"
  | .cornerUp => "corner_up"
  | .cornerDown => "corner_down"
  | .horizontal => "horizontal"
  | .entryMarker => "entry_marker"
  | .exitMarker => "exit_marker"

def toJson (g : Glyph) : Json :=
  .string g.name

def ofJson? : Json → Option Glyph :=
  Json.case? names

end Glyph

namespace Alphabet

def charJson (c : Char) : Json :=
  .string (String.ofList [c])

def toJson (a : Alphabet) : Json :=
  .record
    [("vertical", charJson a.vertical), ("corner_down", charJson a.cornerDown),
      ("corner_up", charJson a.cornerUp), ("exit_marker", charJson a.exitMarker),
      ("entry_marker", charJson a.entryMarker), ("blank", charJson a.blank),
      ("horizontal", (a.horizontal.map charJson).getD .null)]

def fieldNames : List String :=
  ["vertical", "corner_down", "corner_up", "exit_marker", "entry_marker", "blank", "horizontal"]

/-- The alphabet of the fields, with the characters of another for those left out. -/
def ofFields (preset : Alphabet) (fields : Json.Fields) : Option Alphabet := do
  let vertical ← fields.getOr "vertical" Json.char? preset.vertical
  let cornerDown ← fields.getOr "corner_down" Json.char? preset.cornerDown
  let cornerUp ← fields.getOr "corner_up" Json.char? preset.cornerUp
  let exitMarker ← fields.getOr "exit_marker" Json.char? preset.exitMarker
  let entryMarker ← fields.getOr "entry_marker" Json.char? preset.entryMarker
  let blank ← fields.getOr "blank" Json.char? preset.blank
  let horizontal ← fields.getOr "horizontal" (Json.nullable? Json.char?) preset.horizontal
  return { vertical, cornerDown, cornerUp, exitMarker, entryMarker, blank, horizontal }

def ofJson? (v : Json) : Option Alphabet :=
  (v.fields? fieldNames true).bind (ofFields boxes)

end Alphabet

namespace LoopPolicy

def toJson : LoopPolicy → Json
  | .marker => .string "marker"
  | .drop => .string "drop"

def ofJson? : Json → Option LoopPolicy :=
  Json.case? [("marker", .marker), ("drop", .drop)]

end LoopPolicy

namespace Config

def toJson (c : Config) : Json :=
  .record
    [("glyphs", c.alphabet.toJson), ("self_loops", c.loops.toJson),
      ("jump_prefixes", .array (c.jumpPrefixes.map .string)), ("parallel", .bool c.parallel)]

def fieldNames : List String :=
  ["glyphs", "self_loops", "jump_prefixes", "parallel"]

def ofFields (preset : Config) (fields : Json.Fields) : Option Config := do
  let alphabet ← fields.getOr "glyphs" Alphabet.ofJson? preset.alphabet
  let loops ← fields.getOr "self_loops" LoopPolicy.ofJson? preset.loops
  let jumpPrefixes ← fields.getOr "jump_prefixes" (Json.list? Json.text?) preset.jumpPrefixes
  let parallel ← fields.getOr "parallel" Json.bool? preset.parallel
  return { alphabet, loops, jumpPrefixes, parallel }

/-- A configuration with the defaults for the fields left out. It need not be sound. -/
def ofJson? (v : Json) : Option Config :=
  (v.fields? fieldNames true).bind (ofFields {})

inductive Error where
  | malformed
  | unsound (fault : Fault)
  | file (error : File.Error)
  deriving DecidableEq, Repr

/-- The sound configuration of a JSON text. -/
def ofText (text : List Char) : Except Error Config :=
  match (Json.parse? text).bind ofJson? with
  | none => .error .malformed
  | some config =>
    match config.fault? with
    | some fault => .error (.unsound fault)
    | none => .ok config

def ofFile (file : File) : Except Error Config :=
  match file.text with
  | .error e => .error (.file e)
  | .ok text => ofText text

end Config

end JumpArrows
