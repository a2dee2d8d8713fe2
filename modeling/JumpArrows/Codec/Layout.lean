import JumpArrows.Layout
import JumpArrows.Codec.Edge
import JumpArrows.Codec.Listing

/-! # Layouts and summaries as JSON -/

namespace JumpArrows

namespace Track

def toJson (t : Track) : Json :=
  .record [("edge", t.edge.toJson), ("column", .natural t.column)]

end Track

namespace Layout

def toJson (l : Layout) : Json :=
  .record
    [("label", .ofString? l.label), ("instructions", .natural l.instructions),
      ("edges", .array (l.edges.map Edge.toJson)),
      ("assignments", .array (l.tracks.map Track.toJson)), ("depth", .natural l.depth),
      ("decorations", .array (l.decorations.map .string))]

end Layout

namespace Summary

def toJson (s : Summary) : Json :=
  .record
    [("label", .ofString? s.label), ("instructions", .natural s.instructions),
      ("forward", .natural s.forward), ("backward", .natural s.backward),
      ("self_loops", .natural s.loops), ("depth", .natural s.depth)]

end Summary

end JumpArrows
