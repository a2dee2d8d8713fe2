import JumpArrows.Trace.Directive

/-! # Filters

A filter is a list of directives between commas. For an event the closest of those that apply to it
decides, and of two that are equally close the later one; an event that none applies to is left
out. -/

namespace JumpArrows

abbrev Filter := List Directive

namespace Filter

def upTo (level : Level) : Directive :=
  ⟨none, .any, level.rank⟩

/-- A filter that is not a list of directives is `none`; one without any lets errors through. -/
def parse? (text : String) : Option Filter := do
  let pieces := (text.toList.splitOn ',').filter (!·.isEmpty)
  if pieces.isEmpty then return [upTo .error]
  pieces.mapM Directive.parse?

/-- The filter of a setting. Without a proper one, events up to the level of information are let
through. -/
def ofSetting (setting? : Option String) : Filter :=
  (setting?.bind parse?).getD [upTo .info]

def applicable (filter : Filter) (e : Event) : List Directive :=
  filter.filter (·.appliesTo e)

/-- The last of the closest directives for an event. -/
def decisive? (filter : Filter) (e : Event) : Option Directive :=
  (filter.applicable e).foldl
    (fun best? d => if best?.all d.isAsCloseAs then some d else best?) none

def admits (filter : Filter) (e : Event) : Bool :=
  (filter.decisive? e).any fun d => e.level.rank ≤ d.verbosity

end Filter

end JumpArrows
