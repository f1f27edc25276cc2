/-
  CorpusQuery.Cli.LogFilter

  The filter of log events for a run: the one that the environment gives, or
  else the level in effect. In the environment a filter is a list of directives
  with commas between them, of which a single unreadable one makes the whole
  filter unreadable.

  Directives that select by span or by field, in brackets, are left out: here
  they count as unreadable, as do blanks and a target with a character that no
  target of the tool has. The number of a level is a single digit.
-/
import CorpusQuery.Config.Load
import CorpusQuery.Log.Filter

namespace CorpusQuery.Cli

/-! ## Directives -/

/-- The parts of a text between commas. -/
def directiveTexts : List Char → List (List Char)
  | [] => [[]]
  | c :: rest =>
    if c = ',' then [] :: directiveTexts rest
    else match directiveTexts rest with
      | [] => [[c]]
      | text :: later => (c :: text) :: later

/-- The level that a directive names: by its word in any case, or by its number. -/
def directiveLevel? (text : List Char) : Option Log.Level :=
  match text with
  | ['0'] => some .off
  | ['1'] => some .error
  | ['2'] => some .warn
  | ['3'] => some .info
  | ['4'] => some .debug
  | ['5'] => some .trace
  | _ => Config.levelIgnoringCase? (String.ofList text)

/-- A character that a target may have. -/
def isTargetChar (c : Char) : Bool :=
  c.isAlphanum || c = '_' || c = '-' || c = ':'

/-- Reads a directive: a level for all events; or a target with an equals sign and a level. A target
by itself, or without a level after the sign, is shown in full. -/
def directive? (text : List Char) : Option Log.Directive :=
  match directiveLevel? text with
  | some level => some ⟨"", level⟩
  | none =>
    let target := text.takeWhile fun c => c ≠ '='
    if target.isEmpty || !target.all isTargetChar then none
    else match text.dropWhile fun c => c ≠ '=' with
      | [] => some ⟨String.ofList target, .trace⟩
      | ['='] => some ⟨String.ofList target, .trace⟩
      | _ :: level => (directiveLevel? level).map (⟨String.ofList target, ·⟩)

/-! ## Filters -/

/-- Reads a filter. Without a directive it shows errors only; with an unreadable one it is none. -/
def readFilter? (text : String) : Option Log.Filter :=
  match ((directiveTexts text.toList).filter fun part => !part.isEmpty).mapM directive? with
  | some [] => some ⟨[⟨"", .error⟩]⟩
  | some directives => some ⟨directives⟩
  | none => none

/-- The filter of a run: that of the environment if it can be read, else the level in effect. -/
def logFilter (environment : Environment) (level : Log.Level) : Log.Filter :=
  (environment.logFilter.bind readFilter?).getD (.ofLevel level)

/-- The longer target decides, wherever it stands. -/
example : (readFilter? "korp_fcs_query=off,korp_fcs=DEBUG,error").map (fun filter =>
    [Log.Target.tool, .tagCommand, .cql].map fun target => filter.directive? target.path) =
      some [some ⟨"korp_fcs", .debug⟩, some ⟨"korp_fcs", .debug⟩,
        some ⟨"korp_fcs_query", .off⟩] := by
  decide +kernel

end CorpusQuery.Cli
