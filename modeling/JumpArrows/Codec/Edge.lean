import JumpArrows.Jump.Edge
import JumpArrows.Json.Decoder
import JumpArrows.Json.Writer

/-! # Edges as JSON

The direction of an edge is read as it is given, even if it contradicts the rows. -/

namespace JumpArrows

namespace Direction

def toJson (d : Direction) : Json :=
  .string d.name

def ofJson? : Json → Option Direction :=
  Json.case? [("forward", .forward), ("backward", .backward), ("self", .loop)]

end Direction

namespace Edge

def toJson (e : Edge) : Json :=
  .record
    [("source_index", .natural e.source), ("target_index", .natural e.target),
      ("direction", e.direction.toJson)]

def ofJson? (v : Json) : Option Edge := do
  let fields ← v.fields? ["source_index", "target_index", "direction"] false
  let source ← fields.require "source_index" Json.natural?
  let target ← fields.require "target_index" Json.natural?
  let direction ← fields.require "direction" Direction.ofJson?
  return { source, target, direction }

end Edge

end JumpArrows
