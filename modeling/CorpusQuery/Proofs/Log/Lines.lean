/-
  CorpusQuery.Proofs.Log.Lines

  Log lines tell how severe their events are: the first word of a line is the
  label of the severity. A level therefore filters lines as it filters events,
  and the lines shown under a level are those lines of the fullest log that are
  severe enough. The fullest log has a line for every event but those of the
  tool itself.
-/
import CorpusQuery.Log.Filter

namespace CorpusQuery.Log

/-! ## The severity of a line -/

/-- The severities. -/
def Severity.all : List Severity :=
  [.error, .warn, .info, .debug, .trace]

/-- The severity that a log line tells by its first word. -/
def Severity.ofLine? (line : String) : Option Severity :=
  Severity.all.find? fun severity =>
    severity.label.toList = line.toList.takeWhile fun c => c ≠ ' '

/-- A line begins with the label of a severity and a blank. -/
theorem Event.exists_line_eq (event : Event) :
    ∃ rest, event.line.toList = event.severity.label.toList ++ ' ' :: rest := by
  refine ⟨(String.intercalate " " (event.message :: event.fields.map Field.text)).toList, ?_⟩
  rw [Event.line, String.intercalate_cons_cons, String.toList_append, String.toList_append,
    List.append_assoc]
  rfl

/-- Labels are single words. -/
theorem Severity.takeWhile_label (severity : Severity) (rest : List Char) :
    (severity.label.toList ++ ' ' :: rest).takeWhile (fun c => c ≠ ' ') =
      severity.label.toList := by
  cases severity <;> rfl

theorem Severity.find?_label (severity : Severity) :
    Severity.all.find? (fun other => other.label.toList = severity.label.toList) =
      some severity := by
  cases severity <;> decide

/-- The severity of an event is found again in its line. -/
theorem Severity.ofLine?_line (event : Event) :
    Severity.ofLine? event.line = some event.severity := by
  obtain ⟨rest, hline⟩ := event.exists_line_eq
  rw [Severity.ofLine?, hline, Severity.takeWhile_label]
  exact event.severity.find?_label

/-! ## Levels on lines -/

/-- The line tells a severity that the level shows. -/
def Level.showsLine (level : Level) (line : String) : Bool :=
  (Severity.ofLine? line).any level.shows

theorem Level.showsLine_line (level : Level) (event : Event) :
    level.showsLine event.line = level.shows event.severity := by
  rw [Level.showsLine, Severity.ofLine?_line, Option.any_some]

theorem Level.shows_trace (severity : Severity) : Level.trace.shows severity = true := by
  cases severity <;> rfl

theorem Level.shows_off (severity : Severity) : Level.off.shows severity = false := by
  cases severity <;> rfl

namespace Filter

/-- The lines under a level are those of the fullest log that tell of events severe enough. -/
theorem lines_ofLevel (level : Level) (events : List Event) :
    (ofLevel level).lines events =
      ((ofLevel .trace).lines events).filter level.showsLine := by
  have hshown : ∀ event : Event, (ofLevel level).shows event =
      (level.showsLine event.line && (ofLevel .trace).shows event) := by
    intro event
    rw [Level.showsLine_line, shows_ofLevel, shows_ofLevel, Level.shows_trace, Bool.and_true,
      Bool.and_comm]
  have hcompose : level.showsLine ∘ Event.line = fun event => level.showsLine event.line := rfl
  rw [lines, lines, List.filter_map, List.filter_filter, hcompose]
  exact congrArg (List.map Event.line) (List.filter_congr fun event _ => hshown event)

/-- Under `off` there are none. -/
theorem lines_off (events : List Event) : (ofLevel .off).lines events = [] := by
  have hhidden : ∀ event : Event, (ofLevel .off).shows event = false := by
    intro event
    rw [shows_ofLevel, Level.shows_off, Bool.and_false]
  rw [lines, List.filter_eq_nil_iff.mpr fun event _ => by rw [hhidden event]; decide]
  rfl

/-! ## One event after another -/

theorem lines_cons (filter : Filter) (event : Event) (later : List Event) :
    filter.lines (event :: later) =
      (if filter.shows event then [event.line] else []) ++ filter.lines later := by
  rw [lines, List.filter_cons]
  split
  · rfl
  · rfl

/-- No level shows an event of the tool itself. -/
theorem lines_cons_of_tool {event : Event} (h : event.target = .tool) (level : Level)
    (later : List Event) :
    (ofLevel level).lines (event :: later) = (ofLevel level).lines later := by
  have hhidden : (ofLevel level).shows event = false := by
    rw [shows_ofLevel, h]
    rfl
  rw [lines_cons, hhidden]
  rfl

/-- The fullest log has a line for every event of the two libraries. -/
theorem lines_trace {events : List Event} (h : ∀ event ∈ events, event.target ≠ .tool) :
    (ofLevel .trace).lines events = events.map Event.line := by
  have hshown : ∀ event ∈ events, (ofLevel .trace).shows event = true := by
    intro event hmem
    rw [shows_ofLevel, Level.shows_trace, decide_eq_true (h event hmem)]
    rfl
  rw [lines, List.filter_eq_self.mpr hshown]

end Filter

end CorpusQuery.Log
