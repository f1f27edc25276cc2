/-
  CorpusQuery.Proofs.Cli.Sessions

  What the tool does to files, one use after another. The only use that changes
  the content of a file is one that initialises the configuration and succeeds,
  and it writes the example file to its path. By induction on the uses, a file
  holds after a session what it held before, or the example.
-/
import CorpusQuery.Proofs.Cli.Reports
import CorpusQuery.Proofs.Config.Example

namespace CorpusQuery.Cli

open Config (ExampleWritten exampleText)

/-! ## What a run does to the files -/

section Run

variable {world : World} {config : Config} {invocation : Invocation}

/-- The path that a command is to write the example file to. -/
def World.initPath? (world : World) (given : Option String) : Option String :=
  given <|> world.environment.configPath?

/-- What writing the example comes to: directories at most, or the file as well. -/
theorem initConfig_cases (world : World) (given : Option String) (force : Bool) :
    (∃ failure, (initConfig world given force).2 = .error failure ∧
      world.files.Extends (initConfig world given force).1) ∨
    (∃ message path target, (initConfig world given force).2 = .ok message ∧
      world.initPath? given = some path ∧
      ExampleWritten world.files (initConfig world given force).1 path force target) := by
  unfold initConfig World.initPath?
  split
  · exact .inl ⟨_, rfl, .refl _⟩
  · rename_i path hpath
    split
    · rename_i after hwrite
      obtain ⟨target, hwritten⟩ := Config.writeExample_of_ok (congrArg Prod.snd hwrite)
      rw [hwrite] at hwritten
      exact .inr ⟨_, path, target, rfl, hpath, hwritten⟩
    · rename_i after error hwrite
      have hextends := Config.writeExample_of_error (congrArg Prod.snd hwrite)
      rw [hwrite] at hextends
      exact .inl ⟨_, rfl, hextends⟩

theorem initConfig_connected (h : world.files.Connected) (given : Option String) (force : Bool) :
    (initConfig world given force).1.Connected := by
  unfold initConfig
  split
  · exact h
  · rename_i path _
    have hafter := Config.writeExample_connected h path force
    split
    · rename_i hwrite
      rwa [hwrite] at hafter
    · rename_i hwrite
      rwa [hwrite] at hafter

/-- Any other command leaves the files as they are. -/
theorem files_perform (world : World) (config : Config)
    (hcommand : ∀ given force, invocation.command ≠ .configInit given force) :
    (invocation.perform world config).1 = world.files := by
  unfold Invocation.perform Cli.perform
  cases hinit : invocation.command with
  | configInit given force => exact absurd hinit (hcommand given force)
  | _ => rfl

theorem perform_configInit (world : World) (config : Config) {given : Option String} {force : Bool}
    (hcommand : invocation.command = .configInit given force) :
    (invocation.perform world config).1 = (initConfig world given force).1 ∧
      (invocation.perform world config).2.outcome =
        (initConfig world given force).2.map line := by
  unfold Invocation.perform Cli.perform
  rw [hcommand]
  exact ⟨rfl, rfl⟩

/-- The run initialises the configuration and succeeds. -/
def Initialises (arguments : List String) (world : World) (given : Option String)
    (force : Bool) : Prop :=
  ∃ invocation report, readAll arguments = .ok invocation ∧
    invocation.command = .configInit given force ∧
    run arguments world = .ran report ∧ report.code = 0

/-- The files after a run. -/
def filesAfter (arguments : List String) (world : World) : FileSystem :=
  (run arguments world).files world

theorem filesAfter_of_read {arguments : List String} (hread : readAll arguments = .ok invocation) :
    filesAfter arguments world = (runInvocation world invocation).files := by
  rw [filesAfter, run_of_read hread]
  rfl

theorem initialises_of_read {arguments : List String} {given : Option String} {force : Bool}
    (hread : readAll arguments = .ok invocation)
    (hcommand : invocation.command = .configInit given force)
    (hcode : (runInvocation world invocation).code = 0) :
    Initialises arguments world given force :=
  ⟨invocation, runInvocation world invocation, hread, hcommand, run_of_read hread, hcode⟩

/-- All that a run can do to the files is to write the example. -/
theorem filesAfter_cases (arguments : List String) (world : World) :
    filesAfter arguments world = world.files ∨
    ∃ invocation config given force, readAll arguments = .ok invocation ∧
      invocation.load world = .ok config ∧ invocation.command = .configInit given force ∧
      filesAfter arguments world = (initConfig world given force).1 := by
  cases hread : readAll arguments with
  | error stop =>
      rw [filesAfter, run, hread]
      exact .inl rfl
  | ok invocation =>
      rw [filesAfter_of_read hread]
      cases hload : invocation.load world with
      | error error =>
          rw [runInvocation_of_not_loaded hload]
          exact .inl rfl
      | ok config =>
          rw [files_runInvocation hload]
          by_cases hinit : ∃ given force, invocation.command = .configInit given force
          · obtain ⟨given, force, hcommand⟩ := hinit
            exact .inr ⟨invocation, config, given, force, rfl, hload, hcommand,
              (perform_configInit world config hcommand).1⟩
          · exact .inl (files_perform world config fun given force hcommand =>
              hinit ⟨given, force, hcommand⟩)

/-- A run that succeeds in initialising the configuration writes the example. -/
theorem Initialises.exists_target {arguments : List String} {given : Option String} {force : Bool}
    (h : Initialises arguments world given force) :
    ∃ path target, world.initPath? given = some path ∧
      ExampleWritten world.files (filesAfter arguments world) path force target := by
  obtain ⟨invocation, report, hread, hcommand, hrun, hcode⟩ := h
  rw [run_of_read hread, Outcome.ran.injEq] at hrun
  rw [filesAfter_of_read hread]
  subst hrun
  -- Neither a configuration that fails to load nor a command that fails ends with code 0.
  cases hload : invocation.load world with
  | error error =>
      rw [runInvocation_of_not_loaded hload] at hcode
      cases hcode
  | ok config =>
      obtain ⟨hfiles, houtcome⟩ := perform_configInit world config hcommand
      rcases initConfig_cases world given force with
        ⟨failure, hfailure, -⟩ | ⟨message, path, target, -, hpath, hwritten⟩
      · rw [hfailure] at houtcome
        rw [runInvocation_of_error hload houtcome] at hcode
        cases hcode
      · rw [files_runInvocation hload, hfiles]
        exact ⟨path, target, hpath, hwritten⟩

/-- Any other run adds directories at most. -/
theorem extends_of_not_initialises {arguments : List String}
    (h : ∀ given force, ¬ Initialises arguments world given force) :
    world.files.Extends (filesAfter arguments world) := by
  rcases filesAfter_cases arguments world with
    hsame | ⟨invocation, config, given, force, hread, hload, hcommand, hfiles⟩
  · rw [hsame]
    exact .refl _
  · rw [hfiles]
    rcases initConfig_cases world given force with
      ⟨_, -, hextends⟩ | ⟨message, _, _, hmessage, -⟩
    · exact hextends
    · -- A success is what the assumption rules out.
      have houtcome := (perform_configInit world config hcommand).2
      rw [hmessage] at houtcome
      have hcode : (runInvocation world invocation).code = 0 := by
        rw [runInvocation_of_ok hload houtcome]
      exact absurd (initialises_of_read hread hcommand hcode) (h given force)

theorem filesAfter_connected (h : world.files.Connected) (arguments : List String) :
    (filesAfter arguments world).Connected := by
  rcases filesAfter_cases arguments world with hsame | ⟨_, _, given, force, -, -, -, hfiles⟩
  · rw [hsame]
    exact h
  · rw [hfiles]
    exact initConfig_connected h given force

end Run

/-! ## Sessions -/

/-- One use of the tool: what it is started with, and from where. Which places cannot be written may
be different each time. -/
structure Use where
  arguments : List String
  environment : Environment
  input : Option String
  workingDirectory : String
  refused : List String

namespace Use

/-- What the use starts from, after what was done to the files before. -/
def world (use : Use) (files : FileSystem) : World where
  environment := use.environment
  files := { files with workingDirectory := use.workingDirectory, refused := use.refused }
  input := use.input

/-- The files after the use. -/
def after (use : Use) (files : FileSystem) : FileSystem :=
  filesAfter use.arguments (use.world files)

/-- The use initialises the configuration and succeeds. -/
def Initialises (use : Use) (files : FileSystem) (given : Option String) (force : Bool) : Prop :=
  Cli.Initialises use.arguments (use.world files) given force

/-- The use writes the example file to a place. -/
def WritesTo (use : Use) (files : FileSystem) (place : String) : Prop :=
  ∃ given force path, use.Initialises files given force ∧
    (use.world files).initPath? given = some path ∧
    (use.after files).placeOf? path = some place

end Use

/-- The files after uses one after another. -/
def session (files : FileSystem) (uses : List Use) : FileSystem :=
  uses.foldl (fun files use => use.after files) files

theorem session_concat (files : FileSystem) (uses : List Use) (use : Use) :
    session files (uses ++ [use]) = use.after (session files uses) := by
  rw [session, List.foldl_append]
  rfl

variable {files : FileSystem} {use : Use}

theorem Use.content?_after (h : ∀ given force, ¬ use.Initialises files given force)
    (place : String) : (use.after files).content? place = files.content? place :=
  (extends_of_not_initialises h).content? place

/-- A use changes the content of a file only where it writes the example. -/
theorem Use.content?_after_or (use : Use) (files : FileSystem) (place : String) :
    (use.after files).content? place = files.content? place ∨
      ((use.after files).content? place = some (some exampleText) ∧ use.WritesTo files place) := by
  by_cases hinit : ∃ given force, use.Initialises files given force
  · obtain ⟨given, force, hinit⟩ := hinit
    obtain ⟨path, target, hpath, hwritten⟩ := Initialises.exists_target hinit
    by_cases heq : place = target
    · subst heq
      exact .inr ⟨hwritten.content, given, force, path, hinit, hpath, hwritten.leads⟩
    · exact .inl (hwritten.others place heq)
  · exact .inl (Use.content?_after (fun given force h => hinit ⟨given, force, h⟩) place)

/-- After a session a file holds what it held before it, or the example that one of the uses wrote
there. -/
theorem content?_session_or (files : FileSystem) (uses : List Use) (place : String) :
    (session files uses).content? place = files.content? place ∨
      ((session files uses).content? place = some (some exampleText) ∧
        ∃ earlier use later, uses = earlier ++ use :: later ∧
          use.WritesTo (session files earlier) place) := by
  induction uses using List.reverseRecOn with
  | nil => exact .inl rfl
  | append_singleton uses last ih =>
      -- The last use decides where it writes; elsewhere it is as after the uses before it.
      rw [session_concat]
      rcases last.content?_after_or (session files uses) place with hkept | ⟨hcontent, hwrites⟩
      · rw [hkept]
        refine ih.imp_right fun ⟨hcontent, earlier, use, later, hsplit, hwrites⟩ => ?_
        exact ⟨hcontent, earlier, use, later ++ [last], by simp [hsplit], hwrites⟩
      · exact .inr ⟨hcontent, uses, last, [], rfl, hwrites⟩

theorem session_connected (h : files.Connected) (uses : List Use) :
    (session files uses).Connected := by
  induction uses using List.reverseRecOn with
  | nil => exact h
  | append_singleton uses last ih =>
      rw [session_concat]
      exact filesAfter_connected ih last.arguments

/-- Files change only where the configuration is initialised. In every session, a use that does
anything else or fails leaves the content of every file as it was; one that initialises the
configuration and succeeds writes the example to the place that its path leads to, and changes the
content of no other file; and after the session every file holds what it held before or the example
of such a use. Without force nothing was at the place, if every entry lies in a directory and no
name of the path leads upwards. -/
theorem files_change_only_by_init (files : FileSystem) (uses : List Use) :
    (∀ earlier use later, uses = earlier ++ use :: later →
      ((∀ given force, ¬ use.Initialises (session files earlier) given force) →
        ∀ place, (session files (earlier ++ [use])).content? place =
          (session files earlier).content? place) ∧
      ∀ given force, use.Initialises (session files earlier) given force →
        ∃ path target, (use.world (session files earlier)).initPath? given = some path ∧
          ExampleWritten (use.world (session files earlier)).files
            (session files (earlier ++ [use])) path force target ∧
          (files.Connected → force = false → ".." ∉ Path.names path →
            (session files earlier).get? target = none)) ∧
    ∀ place, (session files uses).content? place = files.content? place ∨
      ((session files uses).content? place = some (some exampleText) ∧
        ∃ earlier use later, uses = earlier ++ use :: later ∧
          use.WritesTo (session files earlier) place) := by
  refine ⟨fun earlier use later _ => ?_, content?_session_or files uses⟩
  rw [session_concat]
  refine ⟨Use.content?_after, fun given force hinit => ?_⟩
  obtain ⟨path, target, hpath, hwritten⟩ := hinit.exists_target
  exact ⟨path, target, hpath, hwritten, fun hconnected hforce hup =>
    hwritten.free_of_connected hforce (session_connected hconnected earlier) hup⟩

/-- A use from a directory with nothing in the environment. -/
def plainUse (workingDirectory : String) (arguments : List String) : Use where
  arguments := arguments
  environment := ⟨none, none, none, false, none, none⟩
  input := none
  workingDirectory := workingDirectory
  refused := []

/-- A home directory with a file in it. -/
def homeFiles : FileSystem :=
  ⟨[("/home", .directory), ("/home/notes", .file (some "mine"))], "/home", []⟩

/-- The example is written to a new directory, and is not written a second time. -/
theorem files_change_only_by_init_twice :
    let use := plainUse "/home" ["config", "init", "new/c.toml"]
    use.Initialises homeFiles (some "new/c.toml") false ∧
    (∀ given force, ¬ use.Initialises (session homeFiles [use]) given force) ∧
    (session homeFiles [use, use]).content? "/home/new/c.toml" = some (some exampleText) ∧
    (session homeFiles [use, use]).content? "/home/notes" = some (some "mine") := by
  intro use
  have hread : readAll use.arguments =
      .ok ⟨none, false, none, none, .configInit (some "new/c.toml") false⟩ := by decide +kernel
  have hfirst : use.Initialises homeFiles (some "new/c.toml") false :=
    initialises_of_read hread rfl (by decide +kernel)
  have hsecond : ∀ given force, ¬ use.Initialises (session homeFiles [use]) given force := by
    rintro given force ⟨invocation, report, hother, -, hrun, hcode⟩
    cases hread.symm.trans hother
    rw [run_of_read hread, Outcome.ran.injEq] at hrun
    rw [← hrun] at hcode
    revert hcode
    decide +kernel
  obtain ⟨hsteps, -⟩ := files_change_only_by_init homeFiles [use, use]
  obtain ⟨path, target, hpath, hwritten, -⟩ := (hsteps [] use [use] rfl).2 _ _ hfirst
  cases hpath
  have hplace : (session homeFiles [use]).placeOf? "new/c.toml" = some "/home/new/c.toml" := by
    decide +kernel
  cases hplace.symm.trans hwritten.leads
  have hkept := (hsteps [use] use [] rfl).1 hsecond
  refine ⟨hfirst, hsecond, (hkept _).trans hwritten.content, ?_⟩
  exact (hkept _).trans (hwritten.others "/home/notes" (by decide))

/-- A file in the root directory. -/
def rootFiles : FileSystem :=
  ⟨[("/existing.toml", .file (some "log_level = \"info\"\n"))], "", []⟩

/-- Whether there is a file at the path is asked before the directories on the way are made. A path
that leads upwards out of a missing directory leads to nothing then, and to a file that is there all
the time once the directory is made, so that the file is overwritten without force. -/
theorem init_overwrites_behind_missing_directory :
    let path := "missing/../existing.toml"
    let use := plainUse "" ["config", "init", path]
    rootFiles.Connected ∧ use.Initialises rootFiles (some path) false ∧
    (use.after rootFiles).placeOf? path = some "/existing.toml" ∧
    rootFiles.content? "/existing.toml" = some (some "log_level = \"info\"\n") ∧
    (use.after rootFiles).content? "/existing.toml" = some (some exampleText) := by
  intro path use
  have hconnected : rootFiles.Connected := by
    intro place hplace
    have hplaces : place = "" ∨ place = "/existing.toml" := by
      simp only [FileSystem.get?, rootFiles, List.lookup_cons, List.lookup_nil] at hplace
      grind
    rcases hplaces with rfl | rfl
    · rfl
    · decide +kernel
  have hread : readAll use.arguments =
      .ok ⟨none, false, none, none, .configInit (some path) false⟩ := by decide +kernel
  have hinit : use.Initialises rootFiles (some path) false :=
    initialises_of_read hread rfl (by decide +kernel)
  have hplace : (use.after rootFiles).placeOf? path = some "/existing.toml" := by decide +kernel
  obtain ⟨_, target, hpath, hwritten⟩ := hinit.exists_target
  cases hpath
  cases hplace.symm.trans hwritten.leads
  exact ⟨hconnected, hinit, hplace, rfl, hwritten.content⟩

end CorpusQuery.Cli
