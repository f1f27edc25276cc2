/-
  CorpusQuery.Log.Filter

  Filters of the log. A directive gives a level to the events of some targets,
  and for each event the most specific directive decides whether it is shown.
-/
import CorpusQuery.Log.Event

namespace CorpusQuery.Log

/-- A level for the events whose target begins with the given text; the empty text begins all. -/
structure Directive where
  target : String
  level : Level
  deriving DecidableEq, Repr

/-- The target begins as the directive asks. -/
def Directive.covers (directive : Directive) (target : String) : Bool :=
  directive.target.toList.isPrefixOf target.toList

/-- Which events are shown. -/
structure Filter where
  directives : List Directive
  deriving DecidableEq, Repr

namespace Filter

/-- A level for the events of the two libraries of the tool, but not for those of the tool
itself. -/
def ofLevel (level : Level) : Filter :=
  ⟨[⟨"korp_fcs_query", level⟩, ⟨"korp_fcs_cli", level⟩]⟩

/-- The directive that decides on a target: of those that cover it the one that asks for most, and
of equals the last. -/
def directive? (filter : Filter) (target : String) : Option Directive :=
  (filter.directives.filter fun directive => directive.covers target).foldl
    (fun best directive =>
      if best.all fun other => other.target.length ≤ directive.target.length then some directive
      else best)
    none

/-- The filter shows the event. -/
def shows (filter : Filter) (event : Event) : Bool :=
  (filter.directive? event.target.path).any fun directive =>
    directive.level.shows event.severity

/-- The lines of the events that the filter shows, in order. -/
def lines (filter : Filter) (events : List Event) : List String :=
  (events.filter filter.shows).map Event.line

/-- One of the two directives decides on every target but the tool itself. -/
theorem level_directive?_ofLevel (level : Level) (target : Target) :
    ((ofLevel level).directive? target.path).map Directive.level =
      if target = .tool then none else some level := by
  cases target <;> simp [directive?, ofLevel, Directive.covers, Target.path]

/-- A level shows the events that are severe enough, and none of the tool itself. -/
theorem shows_ofLevel (level : Level) (event : Event) :
    (ofLevel level).shows event = (event.target ≠ .tool && level.shows event.severity) := by
  have hlevel := level_directive?_ofLevel level event.target
  have hshows : (ofLevel level).shows event =
      (((ofLevel level).directive? event.target.path).map Directive.level).any
        fun shown => shown.shows event.severity := by
    rw [Option.any_map]
    rfl
  rw [hshows, hlevel]
  by_cases htool : event.target = .tool
  · simp [htool]
  · simp [htool]

end Filter

end CorpusQuery.Log
