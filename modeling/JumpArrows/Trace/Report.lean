import JumpArrows.Annotation
import JumpArrows.Trace.Event

/-! # Reports

The events of each step, as a view of what the step yields. -/

namespace JumpArrows

/-- What a finding reports. A jump to its own row that is kept is no news. -/
def Finding.event? : Finding → Option Event
  | .resolved source target => some (.resolved source target)
  | .loopKept _ => none
  | .loopDropped row => some (.loopDropped row)
  | .unresolved pass count => some (.unresolved pass count)

def Block.event? : Block → Option Event
  | .passThrough _ => none
  | .routine r =>
    match r.label with
    | some label => some (.functionHeader label r.address)
    | none => some (.headerless r.address)

def Grid.routeEvents (g : Grid) (e : Edge) : List Event :=
  match (g.route e).2 with
  | some _ => []
  | none => [.outsideGrid e g.rows]

def Edge.reportOfLines (config : Config) (lines : List Instruction) : List Event :=
  (Finding.ofLines config lines).filterMap Finding.event?

def Grid.routeAllEvents (g : Grid) : List Edge → List Event
  | [] => []
  | e :: es => g.routeEvents e ++ (g.route e).1.routeAllEvents es

def Layout.reportOfLines (config : Config) (lines : List Instruction) : List Event :=
  Edge.reportOfLines config lines ++
    (Grid.empty lines.length).routeAllEvents (Edge.ofLines config lines)

def Layout.reportOfRoutine (config : Config) (r : Routine) : List Event :=
  let layout := Layout.ofRoutine config r
  Layout.reportOfLines config r.lines ++
    [.laidOut r.label r.address layout.instructions layout.edges.length layout.depth]

def Block.reportOfRecords (records : List Record) : List Event :=
  (Block.ofRecords records).filterMap Block.event?

/-- What decorating a listing reports: all blocks first, then each routine. -/
def reportOfDecorate (config : Config) (records : List Record) : List Event :=
  Block.reportOfRecords records ++
    ((Block.ofRecords records).filterMap Block.routine?).flatMap (Layout.reportOfRoutine config)

end JumpArrows
