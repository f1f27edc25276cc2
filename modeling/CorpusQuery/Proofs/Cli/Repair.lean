/-
  CorpusQuery.Proofs.Cli.Repair

  What a forced initialisation makes of the default configuration file. Every
  command starts from a configuration that is loaded, also the one that is to
  write a new one. A file that can be read is overwritten whatever it says; one
  that cannot stops the command that would repair it, unless the file is passed
  over.
-/
import CorpusQuery.Proofs.Cli.Sessions
import CorpusQuery.Proofs.Config.Loading
import CorpusQuery.Proofs.FileSystem.Overwriting

namespace CorpusQuery.Cli

open Config (FileGives InUse Layer VariablesGive exampleConfig exampleText)

/-- The default file is there with a text, and no variable gives a setting. -/
structure HasDefaultFile (world : World) (path text : String) : Prop where
  logLevel : world.environment.logLevel = none
  queryType : world.environment.queryType = none
  outputFormat : world.environment.outputFormat = none
  configPath : world.environment.configPath? = some path
  readText : world.files.readText? path = some text

section Loading

variable {world : World} {path text : String}

theorem HasDefaultFile.inUse (h : HasDefaultFile world path text)
    (hmode : world.environment.testMode = false) :
    InUse world.files world.environment none (some path) :=
  .default hmode h.configPath (FileSystem.exists?_of_readText? h.readText)

theorem HasDefaultFile.variablesGive (h : HasDefaultFile world path text) :
    VariablesGive world.environment .empty := by
  refine ⟨?_, ?_, ?_, rfl⟩
  · rw [h.logLevel]; exact .unset
  · rw [h.queryType]; exact .unset
  · rw [h.outputFormat]; exact .unset

theorem HasDefaultFile.load_of_layer (h : HasDefaultFile world path text)
    (hmode : world.environment.testMode = false) {layer : Layer} (hlayer : layer.IsReadFrom text) :
    Config.load world.files world.environment none = .ok (Config.default.overlay layer) :=
  Config.load_eq_ok_iff.mpr ⟨layer, .empty, .file (h.inUse hmode) h.readText hlayer,
    h.variablesGive, Config.overlay_empty _⟩

theorem HasDefaultFile.load_of_testMode (h : HasDefaultFile world path text)
    (hmode : world.environment.testMode = true) :
    Config.load world.files world.environment none = .ok Config.default :=
  Config.load_eq_ok_iff.mpr ⟨.empty, .empty, .none (.passedOver hmode), h.variablesGive, rfl⟩

theorem HasDefaultFile.load_of_malformed (h : HasDefaultFile world path text)
    (hmode : world.environment.testMode = false)
    (hnone : ∀ layer : Layer, ¬ layer.IsReadFrom text) :
    Config.load world.files world.environment none = .error (.malformed path) :=
  (Config.load_eq_error_iff _).mpr (.here (.malformed (h.inUse hmode) h.readText hnone))

/-- There is a configuration unless the file is looked at and is none. -/
theorem HasDefaultFile.exists_load (h : HasDefaultFile world path text)
    (hgood : world.environment.testMode = true ∨ ∃ layer : Layer, layer.IsReadFrom text) :
    ∃ config, Config.load world.files world.environment none = .ok config := by
  cases hmode : world.environment.testMode with
  | true => exact ⟨_, h.load_of_testMode hmode⟩
  | false =>
      rcases hgood with htrue | ⟨layer, hlayer⟩
      · cases hmode.symm.trans htrue
      · exact ⟨_, h.load_of_layer hmode hlayer⟩

end Loading

/-! ## Writing over the file -/

section Writing

variable {world : World} {path text : String}

theorem exists_names_configPath {environment : Environment}
    (h : environment.configPath? = some path) :
    ∃ front, Path.names path = front ++ ["config.toml"] := by
  obtain ⟨home, -, rfl⟩ := Option.map_eq_some_iff.mp h
  exact Path.exists_names_join_eq _ (by decide)

/-- The default path leads into a directory, where the file is. -/
theorem HasDefaultFile.exists_leadsInto (h : HasDefaultFile world path text) :
    ∃ names directory, world.files.LeadsInto path names "config.toml" directory := by
  obtain ⟨names, hnames⟩ := exists_names_configPath h.configPath
  exact ⟨names, FileSystem.exists_leadsInto_of_lookup hnames (by decide) (by decide) (by decide)
    (FileSystem.lookup_of_readText? h.readText)⟩

/-- Where the default file can be written, the example is written over it. -/
theorem HasDefaultFile.exists_initConfig (h : HasDefaultFile world path text)
    (hwritable : ∀ place, world.files.placeOf? path = some place → place ∉ world.files.refused) :
    ∃ after, world.files.write? path exampleText = some after ∧
      initConfig world none true =
        (after, .ok ("Wrote example configuration to " ++ path)) := by
  obtain ⟨names, directory, hinto⟩ := h.exists_leadsInto
  obtain ⟨after, hwrite⟩ := hinto.exists_write? h.readText hwritable exampleText
  have hexample : Config.writeExample world.files path true = (after, .ok ()) := by
    simp only [Config.writeExample, Bool.not_true, Bool.and_false, Bool.false_eq_true, if_false,
      hinto.createParents, hwrite]
  have hpath : (none <|> world.environment.configPath?) = some path := h.configPath
  refine ⟨after, hwrite, ?_⟩
  rw [initConfig, hpath]
  simp only [hexample]

/-- What is read again from the file that was written. -/
theorem HasDefaultFile.after_write (h : HasDefaultFile world path text) {after : FileSystem}
    (hread : after.readText? path = some exampleText) :
    HasDefaultFile { world with
      files := after, environment := { world.environment with testMode := false } }
      path exampleText :=
  ⟨h.logLevel, h.queryType, h.outputFormat, h.configPath, hread⟩

end Writing

/-! ## Runs -/

section Runs

variable {world : World} {path text : String}

/-- The forced initialisation of the default file. -/
def forcedInit : Invocation :=
  ⟨none, false, none, none, .configInit none true⟩

/-- Showing the configuration. -/
def plainShow : Invocation :=
  ⟨none, false, none, none, .configShow false⟩

theorem readAll_forcedInit : readAll ["config", "init", "--force"] = .ok forcedInit := by
  decide +kernel

theorem readAll_plainShow : readAll ["config", "show"] = .ok plainShow := by
  decide +kernel

theorem run_plainShow {config : Config} (h : plainShow.load world = .ok config) :
    ∃ report, run ["config", "show"] world = .ran report ∧ report.code = 0 ∧
      report.output = line (showConfig config false) := by
  refine ⟨_, run_of_read readAll_plainShow, ?_⟩
  rw [runInvocation_of_ok h rfl]
  exact ⟨rfl, rfl⟩

theorem run_forcedInit {config : Config} {after : FileSystem} {message : String}
    (h : forcedInit.load world = .ok config)
    (hinit : initConfig world none true = (after, .ok message)) :
    ∃ report, run ["config", "init", "--force"] world = .ran report ∧ report.code = 0 ∧
      report.output = line message ∧ report.errors = "" ∧ report.files = after := by
  obtain ⟨hfiles, houtcome⟩ := perform_configInit world config (rfl : forcedInit.command = _)
  rw [hinit] at hfiles houtcome
  refine ⟨_, run_of_read readAll_forcedInit, ?_⟩
  rw [runInvocation_of_ok h houtcome]
  exact ⟨rfl, rfl, rfl, hfiles⟩

/-- A malformed file stops every command that looks at it, with the same report. -/
theorem HasDefaultFile.run_of_malformed (h : HasDefaultFile world path text)
    (hmode : world.environment.testMode = false)
    (hnone : ∀ layer : Layer, ¬ layer.IsReadFrom text) {arguments : List String}
    {invocation : Invocation} (hread : readAll arguments = .ok invocation)
    (hconfig : invocation.config = none) (hformat : invocation.format = none) :
    run arguments world =
      .ran ⟨1, "", line ("Error: " ++ (Config.LoadError.malformed path).context), [], [],
        world.files⟩ := by
  have hload : invocation.load world = .error (.malformed path) := by
    rw [Invocation.load, hconfig]
    exact h.load_of_malformed hmode hnone
  rw [run_of_read hread, runInvocation_of_not_loaded hload, hformat]
  rfl

/-- A forced initialisation overwrites the default file and succeeds exactly if the file is passed
over or is a configuration already. What is shown next is the example then. Otherwise the file stays
as it is, and what is shown next is the same failure. -/
theorem forced_init_repairs_iff (h : HasDefaultFile world path text)
    (hwritable : ∀ place, world.files.placeOf? path = some place → place ∉ world.files.refused) :
    ∃ report, run ["config", "init", "--force"] world = .ran report ∧
      (report.code = 0 ↔
        world.environment.testMode = true ∨ ∃ layer : Layer, layer.IsReadFrom text) ∧
      (report.code = 0 →
        report.output = line ("Wrote example configuration to " ++ path) ∧ report.errors = "" ∧
        report.files.readText? path = some exampleText ∧
        (∀ place, world.files.placeOf? path ≠ some place →
          report.files.content? place = world.files.content? place) ∧
        ∃ shown, run ["config", "show"] { world with
            files := report.files
            environment := { world.environment with testMode := false } } = .ran shown ∧
          shown.code = 0 ∧ shown.output = line (showConfig exampleConfig false)) ∧
      (report.code ≠ 0 →
        report = ⟨1, "", line ("Error: " ++ (Config.LoadError.malformed path).context), [], [],
          world.files⟩ ∧
        run ["config", "show"] world = .ran report) := by
  by_cases hgood : world.environment.testMode = true ∨ ∃ layer : Layer, layer.IsReadFrom text
  · -- With a configuration the command is reached, and what it overwrites is not asked any more.
    obtain ⟨config, hload⟩ := h.exists_load hgood
    obtain ⟨after, hwrite, hinit⟩ := h.exists_initConfig hwritable
    obtain ⟨report, hrun, hcode, houtput, herrors, rfl⟩ := run_forcedInit hload hinit
    obtain ⟨target, htarget, hwritten⟩ := FileSystem.written_of_write? hwrite
    have hplace := FileSystem.placeOf?_of_target? htarget
    have hexample := (h.after_write hwritten.readText?).load_of_layer rfl
      (Layer.ofText?_eq_some_iff.mp Config.ofText?_exampleText)
    refine ⟨report, hrun, ⟨fun _ => hgood, fun _ => hcode⟩, fun _ => ?_, absurd hcode⟩
    refine ⟨houtput, herrors, hwritten.readText?, fun place hne => ?_, run_plainShow hexample⟩
    refine hwritten.others place ?_
    rintro rfl
    exact hne hplace
  · rw [not_or, Bool.not_eq_true, not_exists] at hgood
    -- Without one neither of the two commands is reached.
    obtain ⟨hmode, hnone⟩ := hgood
    refine ⟨_, h.run_of_malformed hmode hnone readAll_forcedInit rfl rfl, ?_, nofun, fun _ => ?_⟩
    · refine ⟨nofun, ?_⟩
      rintro (htrue | ⟨layer, hlayer⟩)
      · cases hmode.symm.trans htrue
      · exact absurd hlayer (hnone layer)
    · exact ⟨rfl, h.run_of_malformed hmode hnone readAll_plainShow rfl rfl⟩

/-- A world with a default file that holds a text. -/
def worldWithFile (text : String) : World where
  environment := ⟨none, none, none, false, none, some "/xdg"⟩
  files := ⟨[("/xdg", .directory), ("/xdg/korp-fcs", .directory),
    ("/xdg/korp-fcs/config.toml", .file (some text))], "", []⟩
  input := none

theorem hasDefaultFile_worldWithFile (text : String) :
    HasDefaultFile (worldWithFile text) "/xdg/korp-fcs/config.toml" text :=
  ⟨rfl, rfl, rfl, rfl, rfl⟩

/-- A file with a setting is overwritten. -/
theorem forced_init_repairs_iff_info :
    HasDefaultFile (worldWithFile "log_level = \"info\"\n") "/xdg/korp-fcs/config.toml"
      "log_level = \"info\"\n" ∧
    ∃ report, run ["config", "init", "--force"] (worldWithFile "log_level = \"info\"\n") =
        .ran report ∧
      report.code = 0 ∧ report.files.readText? "/xdg/korp-fcs/config.toml" = some exampleText := by
  have hfile := hasDefaultFile_worldWithFile "log_level = \"info\"\n"
  have hlayer : (⟨some .info, none, none, none⟩ : Layer).IsReadFrom "log_level = \"info\"\n" :=
    Layer.ofText?_eq_some_iff.mp (by decide +kernel)
  obtain ⟨report, hrun, hcode, hwritten, -⟩ :=
    forced_init_repairs_iff hfile fun _ _ => List.not_mem_nil
  have hzero := hcode.mpr (.inr ⟨_, hlayer⟩)
  exact ⟨hfile, report, hrun, hzero, (hwritten hzero).2.2.1⟩

/-- A file with an unknown word for a level is not repaired: the command that is to write over it
looks for settings in it first, and fails. -/
theorem malformed_file_not_repaired :
    HasDefaultFile (worldWithFile "log_level = \"loud\"\n") "/xdg/korp-fcs/config.toml"
      "log_level = \"loud\"\n" ∧
    ∃ report, run ["config", "init", "--force"] (worldWithFile "log_level = \"loud\"\n") =
        .ran report ∧
      report.code = 1 ∧ report.files.readText? "/xdg/korp-fcs/config.toml" =
        some "log_level = \"loud\"\n" := by
  have hfile := hasDefaultFile_worldWithFile "log_level = \"loud\"\n"
  have hnone : ∀ layer : Layer, ¬ layer.IsReadFrom "log_level = \"loud\"\n" := by
    intro layer hlayer
    have hread : Layer.ofText? "log_level = \"loud\"\n" = none := by decide +kernel
    cases hread.symm.trans (Layer.ofText?_eq_some_iff.mpr hlayer)
  exact ⟨hfile, _, hfile.run_of_malformed rfl hnone readAll_forcedInit rfl rfl, rfl, rfl⟩

end Runs

end CorpusQuery.Cli
