import JumpArrows.Layout

/-! # Annotated listings

Every record of a listing gets the margin text of its row: that of the routine's layout for an
instruction, and none for a header or a line that is passed through. Block after block this gives
one decoration per record, since the blocks cover the records in order. Annotating a text puts each
decoration in front of its line. -/

namespace JumpArrows

structure DecoratedLine where
  decoration : String
  record : Record
  deriving DecidableEq, Repr

def DecoratedLine.text (line : DecoratedLine) : String :=
  line.decoration ++ line.record.raw

/-- The layouts of the routines of a listing, in order. If `Config.parallel` is set, they may be
made at the same time. They are collected in the order of the routines all the same, so the list is
this one either way. -/
def Layout.ofRecords (config : Config) (records : List Record) : List Layout :=
  ((Block.ofRecords records).filterMap Block.routine?).map (.ofRoutine config)

def Block.decorations (config : Config) : Block → List String
  | .passThrough _ => [""]
  | .routine r => r.header.toList.map (fun _ => "") ++ (Layout.ofRoutine config r).decorations

def decorate (config : Config) (records : List Record) : List DecoratedLine :=
  ((Block.ofRecords records).flatMap (Block.decorations config)).zipWith DecoratedLine.mk records

/-- Annotates a whole listing, line by line. If it ends in a line feed, the result does so, too. -/
def annotate (config : Config) (text : String) : String :=
  let lines := (decorate config (Record.ofText text)).map DecoratedLine.text
  "\n".intercalate lines ++ if Text.endsLine text.toList then "\n" else ""

end JumpArrows
