/-
  CorpusQuery.Proofs.Cli.Reports

  What a run leaves, put together from what loading the configuration and
  performing the command come to. Later proofs speak of these parts and never
  of how a report is assembled.
-/
import CorpusQuery.Cli.Run

namespace CorpusQuery.Cli

variable {world : World} {config : Config} {invocation : Invocation}

/-! ## Configurations -/

/-- The configuration that is loaded for an invocation. -/
def Invocation.load (world : World) (invocation : Invocation) : Except Config.LoadError Config :=
  Config.load world.files world.environment invocation.config

/-- The configuration that the command runs under: the format that the arguments give goes before
the one that is loaded. -/
def Invocation.configure (invocation : Invocation) (config : Config) : Config :=
  { config with format := invocation.format.getD config.format }

/-- What the command does under a configuration that is loaded. -/
def Invocation.perform (world : World) (invocation : Invocation) (config : Config) :
    FileSystem × Logged Failure String :=
  Cli.perform world (invocation.configure config) invocation.command

/-- The events of a run: that there is a configuration, and those of the command. -/
def Invocation.events (world : World) (invocation : Invocation) (config : Config) :
    List Log.Event :=
  .configurationLoaded (invocation.configure config) :: (invocation.perform world config).2.events

/-- The filter of the log under a configuration. -/
def Invocation.logFilter (world : World) (invocation : Invocation) (config : Config) :
    Log.Filter :=
  Cli.logFilter world.environment (config.levelInEffect invocation.logLevel invocation.verbose)

/-- The lines that are shown of the events. -/
def Invocation.logLines (world : World) (invocation : Invocation) (config : Config) :
    List String :=
  (invocation.logFilter world config).lines (invocation.events world config)

/-! ## Reports -/

/-- Without a configuration nothing is done, and the failure is reported in the format that the
arguments give. -/
theorem runInvocation_of_not_loaded {error : Config.LoadError}
    (h : invocation.load world = .error error) :
    runInvocation world invocation =
      ⟨1, "", line ((Failure.load error).line (invocation.format.getD .text)), [], [],
        world.files⟩ := by
  have hload : Config.load world.files world.environment invocation.config = .error error := h
  rw [runInvocation, hload]

/-- A command that succeeds. -/
theorem runInvocation_of_ok {output : String} (h : invocation.load world = .ok config)
    (houtcome : (invocation.perform world config).2.outcome = .ok output) :
    runInvocation world invocation =
      ⟨0, output, "", invocation.events world config, invocation.logLines world config,
        (invocation.perform world config).1⟩ := by
  have hload : Config.load world.files world.environment invocation.config = .ok config := h
  have hperform : (Cli.perform world (invocation.configure config) invocation.command).2.outcome
      = .ok output := houtcome
  rw [runInvocation, hload]
  show runCommand world (invocation.configure config) invocation = _
  simp only [runCommand, hperform]
  rfl

/-- A command that fails is reported in the format of the configuration it runs under. -/
theorem runInvocation_of_error {failure : Failure} (h : invocation.load world = .ok config)
    (houtcome : (invocation.perform world config).2.outcome = .error failure) :
    runInvocation world invocation =
      ⟨1, "", line (failure.line (invocation.format.getD config.format)),
        invocation.events world config, invocation.logLines world config,
        (invocation.perform world config).1⟩ := by
  have hload : Config.load world.files world.environment invocation.config = .ok config := h
  have hperform : (Cli.perform world (invocation.configure config) invocation.command).2.outcome
      = .error failure := houtcome
  rw [runInvocation, hload]
  show runCommand world (invocation.configure config) invocation = _
  simp only [runCommand, hperform]
  rfl

/-- The lines that a run logs once it has its configuration. -/
theorem logLines_runInvocation
    (hload : invocation.load world = .ok config) :
    (runInvocation world invocation).logLines = invocation.logLines world config := by
  cases houtcome : (invocation.perform world config).2.outcome with
  | ok output => rw [runInvocation_of_ok hload houtcome]
  | error failure => rw [runInvocation_of_error hload houtcome]

/-- The events of a run once it has its configuration. -/
theorem events_runInvocation (hload : invocation.load world = .ok config) :
    (runInvocation world invocation).events = invocation.events world config := by
  cases houtcome : (invocation.perform world config).2.outcome with
  | ok output => rw [runInvocation_of_ok hload houtcome]
  | error failure => rw [runInvocation_of_error hload houtcome]

/-- A run leaves the files as its command does, however it ends. -/
theorem files_runInvocation (hload : invocation.load world = .ok config) :
    (runInvocation world invocation).files = (invocation.perform world config).1 := by
  cases houtcome : (invocation.perform world config).2.outcome with
  | ok output => rw [runInvocation_of_ok hload houtcome]
  | error failure => rw [runInvocation_of_error hload houtcome]

/-- Commands that do the same under one configuration make runs that end alike, write the same and
report the same, wherever they are run. -/
theorem runInvocation_congr {later : World} {second : Invocation}
    (hload : invocation.load world = .ok config) (hlater : second.load later = .ok config)
    (hformat : second.format = invocation.format)
    (hperform : (second.perform later config).2 = (invocation.perform world config).2) :
    (runInvocation later second).code = (runInvocation world invocation).code ∧
      (runInvocation later second).output = (runInvocation world invocation).output ∧
      (runInvocation later second).errors = (runInvocation world invocation).errors ∧
      (runInvocation later second).events = (runInvocation world invocation).events := by
  have hevents : second.events later config = invocation.events world config := by
    rw [Invocation.events, Invocation.events, Invocation.configure, Invocation.configure, hformat,
      hperform]
  have hother : (second.perform later config).2.outcome =
      (invocation.perform world config).2.outcome := congrArg Logged.outcome hperform
  cases houtcome : (invocation.perform world config).2.outcome with
  | ok output =>
      rw [runInvocation_of_ok hload houtcome, runInvocation_of_ok hlater (hother.trans houtcome),
        hevents]
      exact ⟨rfl, rfl, rfl, rfl⟩
  | error failure =>
      rw [runInvocation_of_error hload houtcome,
        runInvocation_of_error hlater (hother.trans houtcome), hevents, hformat]
      exact ⟨rfl, rfl, rfl, rfl⟩

theorem logLines_of_not_loaded {error : Config.LoadError}
    (hload : invocation.load world = .error error) :
    (runInvocation world invocation).logLines = [] := by
  rw [runInvocation_of_not_loaded hload]

/-- Arguments that are read make a run. -/
theorem run_of_read {arguments : List String} (h : readAll arguments = .ok invocation) :
    run arguments world = .ran (runInvocation world invocation) := by
  rw [run, h]

/-! ## Endings -/

/-- How a run ends: with what it writes, or with a failure to load the configuration or of the
command. -/
def Invocation.ending (world : World) (invocation : Invocation) : Except Failure String :=
  match invocation.load world with
  | .ok config => (invocation.perform world config).2.outcome
  | .error error => .error (.load error)

theorem Invocation.ending_of_loaded (h : invocation.load world = .ok config) :
    invocation.ending world = (invocation.perform world config).2.outcome := by
  rw [ending, h]

theorem Invocation.ending_of_not_loaded {error : Config.LoadError}
    (h : invocation.load world = .error error) :
    invocation.ending world = .error (.load error) := by
  rw [ending, h]

end CorpusQuery.Cli
