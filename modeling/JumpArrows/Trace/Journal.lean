import JumpArrows.Trace.Filter

/-! # Journals

Events are dropped until somebody asks for them. They can be written down in a journal, in one of
two formats and through a filter, or go elsewhere. The first request decides for good; a journal
opens with the event that it has been started, if its filter lets that through. -/

namespace JumpArrows

/-- A request for where events shall go. -/
inductive Request where
  | journal (format : Format)
  | elsewhere
  deriving DecidableEq, Repr

structure Journal where
  format : Format
  filter : Filter
  deriving DecidableEq, Repr

namespace Journal

def ofRequests? (requests : List Request) (setting? : Option String) : Option Journal :=
  match requests.head? with
  | some (.journal format) => some ⟨format, .ofSetting setting?⟩
  | some .elsewhere | none => none

def entries (journal : Journal) (events : List Event) : List Event :=
  (.started journal.format :: events).filter journal.filter.admits

end Journal

end JumpArrows
