/-
  CorpusQuery.Proofs.Cli.Verbosity

  Verbosity only filters the log. Two runs that differ in how much they are
  asked to log do the same and write the same; the lines that one of them logs
  are those lines of the fullest log that its level shows, and the fullest log
  has a line for every event of the command.
-/
import CorpusQuery.Proofs.Cli.Events
import CorpusQuery.Proofs.Cli.Reports
import CorpusQuery.Proofs.Cli.Translation
import CorpusQuery.Proofs.Log.Lines

namespace CorpusQuery.Cli

/-! ## Levels -/

/-- The level in effect under a configuration: that of the switch; else `debug`, if the arguments
ask for more; else the configured one; else `warn`. -/
def Invocation.levelUnder (invocation : Invocation) (config : Config) : Log.Level :=
  ((invocation.logLevel.or (if invocation.verbose then some .debug else none)).or
    config.logLevel).getD .warn

theorem Invocation.levelInEffect_eq (invocation : Invocation) (config : Config) :
    config.levelInEffect invocation.logLevel invocation.verbose =
      invocation.levelUnder config := by
  obtain ⟨logLevel, verbose, path, format, command⟩ := invocation
  cases logLevel with
  | some level => rfl
  | none => cases verbose <;> rfl

/-! ## Invocations that ask for more or less -/

/-- The invocation with other choices of how much to log. -/
def Invocation.withVerbosity (invocation : Invocation) (level : Option Log.Level) (verbose : Bool) :
    Invocation :=
  { invocation with logLevel := level, verbose := verbose }

variable {world : World} {config : Config}

/-- Without a filter in the environment the level in effect filters the log. -/
theorem Invocation.logLines_eq (hfilter : world.environment.logFilter = none)
    (invocation : Invocation) (config : Config) :
    invocation.logLines world config =
      (Log.Filter.ofLevel (invocation.levelUnder config)).lines
        (invocation.events world config) := by
  rw [Invocation.logLines, Invocation.logFilter, Invocation.levelInEffect_eq, Cli.logFilter,
    hfilter]
  rfl

/-- The fullest log has a line for every event of the command. -/
theorem Invocation.lines_trace (world : World) (invocation : Invocation) (config : Config) :
    (Log.Filter.ofLevel .trace).lines (invocation.events world config) =
      (invocation.perform world config).2.events.map Log.Event.line := by
  rw [Invocation.events, Log.Filter.lines_cons_of_tool rfl]
  exact Log.Filter.lines_trace
    (reports_perform world (invocation.configure config) invocation.command)

/-- How much is logged plays no part in what a run does and writes. -/
theorem runInvocation_withVerbosity (world : World) (invocation : Invocation)
    (level : Option Log.Level) (verbose : Bool) :
    (runInvocation world (invocation.withVerbosity level verbose)).code =
        (runInvocation world invocation).code ∧
      (runInvocation world (invocation.withVerbosity level verbose)).output =
        (runInvocation world invocation).output ∧
      (runInvocation world (invocation.withVerbosity level verbose)).errors =
        (runInvocation world invocation).errors ∧
      (runInvocation world (invocation.withVerbosity level verbose)).files =
        (runInvocation world invocation).files := by
  -- Both load the same configuration and perform the same command under it.
  cases hload : invocation.load world with
  | error error =>
      have hother : (invocation.withVerbosity level verbose).load world = .error error := hload
      rw [runInvocation_of_not_loaded hload, runInvocation_of_not_loaded hother]
      exact ⟨rfl, rfl, rfl, rfl⟩
  | ok config =>
      have hother : (invocation.withVerbosity level verbose).load world = .ok config := hload
      obtain ⟨hcode, houtput, herrors, -⟩ := runInvocation_congr hload hother rfl rfl
      refine ⟨hcode, houtput, herrors, ?_⟩
      rw [files_runInvocation hload, files_runInvocation hother]
      rfl

/-- Verbosity only filters the log. Without a filter in the environment, a run that differs from
another in how much it is asked to log ends with the same code and leaves the same output, errors
and files. Where the other is at `trace`, it logs a line for every event of the command, and the
lines of the first are those lines of the other that its own level shows; under `off` there are
none. -/
theorem verbosity_filters_log (world : World) (hfilter : world.environment.logFilter = none)
    (invocation : Invocation) (level : Option Log.Level) (verbose : Bool)
    (arguments other : List String) (hread : readAll arguments = .ok invocation)
    (hother : readAll other = .ok { invocation with logLevel := level, verbose := verbose }) :
    ∃ report full, run arguments world = .ran report ∧ run other world = .ran full ∧
      full.code = report.code ∧ full.output = report.output ∧ full.errors = report.errors ∧
      full.files = report.files ∧
      (∀ error, invocation.load world = .error error →
        report.logLines = [] ∧ full.logLines = []) ∧
      ∀ config, invocation.load world = .ok config →
        ((invocation.withVerbosity level verbose).levelUnder config = .trace →
          full.logLines = (invocation.perform world config).2.events.map Log.Event.line ∧
          report.logLines =
            full.logLines.filter (invocation.levelUnder config).showsLine) ∧
        (invocation.levelUnder config = .off → report.logLines = []) := by
  obtain ⟨hcode, houtput, herrors, hfiles⟩ :=
    runInvocation_withVerbosity world invocation level verbose
  refine ⟨runInvocation world invocation,
    runInvocation world (invocation.withVerbosity level verbose), run_of_read hread,
    run_of_read hother, hcode, houtput, herrors, hfiles, ?_, ?_⟩
  · intro error hload
    exact ⟨logLines_of_not_loaded hload, logLines_of_not_loaded hload⟩
  · intro config hload
    have hfull : (runInvocation world (invocation.withVerbosity level verbose)).logLines =
        (invocation.withVerbosity level verbose).logLines world config :=
      logLines_runInvocation hload
    rw [logLines_runInvocation hload, hfull, Invocation.logLines_eq hfilter,
      Invocation.logLines_eq hfilter]
    -- Both logs are of the same events.
    have hevents : (invocation.withVerbosity level verbose).events world config =
        invocation.events world config := rfl
    rw [hevents]
    constructor
    · intro htrace
      rw [htrace]
      exact ⟨invocation.lines_trace world config, Log.Filter.lines_ofLevel _ _⟩
    · intro hoff
      rw [hoff]
      exact Log.Filter.lines_off _

/-- A sequence of which the first child is passed over with a warning. -/
def hollowQuery : Query :=
  .fcs (.sequence [.disjunction [], .segment (.once .wildcard)])

/-- A run in a directory whose only file is the tree of the query. -/
def hollowWorld : World :=
  ⟨⟨none, none, none, true, none, none⟩,
    ⟨[("/query.json", .file (some hollowQuery.treeToJson.compact))], "", []⟩, some ""⟩

/-- By default the warning is logged, and at `trace` every event of the command is. -/
theorem verbosity_filters_log_hollow :
    ∃ report full, run ["translate", "query.json"] hollowWorld = .ran report ∧
      run ["-l", "trace", "translate", "query.json", "-v"] hollowWorld = .ran full ∧
      full.code = report.code ∧ full.output = report.output ∧ full.errors = report.errors ∧
      report.logLines = full.logLines.filter Log.Level.warn.showsLine ∧
      full.logLines = (Invocation.perform hollowWorld
        ⟨none, false, none, none, .translate none "query.json"⟩ .default).2.events.map
          Log.Event.line := by
  obtain ⟨report, full, hreport, hfull, hcode, houtput, herrors, -, -, hlines⟩ :=
    verbosity_filters_log hollowWorld rfl ⟨none, false, none, none, .translate none "query.json"⟩
      (some .trace) true ["translate", "query.json"]
      ["-l", "trace", "translate", "query.json", "-v"] (by decide +kernel) (by decide +kernel)
  obtain ⟨htrace, -⟩ := hlines .default (Config.load_of_isPlain _ ⟨rfl, rfl, rfl, rfl⟩)
  obtain ⟨hall, hshown⟩ := htrace rfl
  exact ⟨report, full, hreport, hfull, hcode, houtput, herrors, hshown, hall⟩

end CorpusQuery.Cli
