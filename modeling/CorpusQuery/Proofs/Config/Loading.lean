/-
  CorpusQuery.Proofs.Config.Loading

  How a configuration is put together. Each setting is that of its variable in
  the environment, or that of the file in use, or the default, whatever the
  other settings are. Loading fails exactly if the file or one of the variables
  is faulty, with the first fault in the order file, log level, query type,
  format.
-/
import CorpusQuery.Proofs.Config.Layers

namespace CorpusQuery.Config

open Outcome (First)

/-! ## Errors -/

/-- The path or the value that an error is about. -/
def LoadError.subject : LoadError → String
  | .notFound path | .unreadable path | .malformed path => path
  | .invalidLevel value | .invalidType value _ | .invalidFormat value => value

/-- What is said of an error ends with what it is about. -/
theorem LoadError.context_ends (error : LoadError) :
    ∃ words, error.context = words ++ error.subject := by
  cases error <;> exact ⟨_, rfl⟩

/-! ## Loading -/

section Loading

variable (files : FileSystem) (environment : Environment) (given : Option String)

/-- What the variables give together. None of them is about the layout of JSON. -/
structure VariablesGive (layer : Layer) : Prop where
  logLevel : VariableGives (NamesUpToCase Log.Level.word) environment.logLevel layer.logLevel
  defaultType : VariableGives (fun text type => QueryType.IsNamedBy type text)
    environment.queryType layer.defaultType
  format : VariableGives (NamesUpToCase OutputFormat.word) environment.outputFormat layer.format
  pretty : layer.pretty = none

/-- What may be wrong with the variables, in the order in which they are looked at. -/
def variableFaults : List (LoadError → Prop) :=
  [VariableFault (NamesUpToCase Log.Level.word) .invalidLevel environment.logLevel,
   VariableFault (fun text type => QueryType.IsNamedBy type text)
    (fun text => .invalidType text (.unsupportedQueryType text)) environment.queryType,
   VariableFault (NamesUpToCase OutputFormat.word) .invalidFormat environment.outputFormat]

/-- What may be wrong when a configuration is loaded: first the file, then the variables. -/
def faults : List (LoadError → Prop) :=
  FileFault files environment given :: variableFaults environment

variable {files environment given}

theorem environmentLayer_eq_ok_iff {layer : Layer} :
    environmentLayer environment = .ok layer ↔ VariablesGive environment layer := by
  simp only [environmentLayer, Outcome.bind_ok_iff, (environmentLevel_reads environment).ok_iff,
    (environmentType_reads environment).ok_iff, (environmentFormat_reads environment).ok_iff]
  constructor
  · rintro ⟨_, hlogLevel, _, hdefaultType, _, hformat, h⟩
    cases h
    exact ⟨hlogLevel, hdefaultType, hformat, rfl⟩
  · rintro ⟨hlogLevel, hdefaultType, hformat, hpretty⟩
    refine ⟨_, hlogLevel, _, hdefaultType, _, hformat, ?_⟩
    rw [← hpretty]
    rfl

theorem environmentLayer_eq_error_iff (error : LoadError) :
    environmentLayer environment = .error error ↔ First (variableFaults environment) error := by
  refine Outcome.bind_error_iff_first (environmentLevel_reads environment).error_iff ?_ error
  intro _ _
  refine Outcome.bind_error_iff_first (environmentType_reads environment).error_iff ?_
  intro _ _
  -- Nothing comes after the format that might fail.
  refine Outcome.bind_error_iff_first (environmentFormat_reads environment).error_iff ?_
  exact fun _ _ _ => ⟨nofun, nofun⟩

theorem load_eq_error_iff (error : LoadError) :
    load files environment given = .error error ↔ First (faults files environment given) error := by
  refine Outcome.bind_error_iff_first (fun _ => fileLayer_eq_error_iff) ?_ error
  intro file _ other
  rw [← environmentLayer_eq_error_iff, Outcome.bind_error_iff]
  constructor
  · rintro (h | ⟨_, _, h⟩)
    · exact h
    · cases h
  · exact .inl

theorem load_eq_ok_iff {config : Config} :
    load files environment given = .ok config ↔ ∃ fromFile fromVariables,
      FileGives files environment given fromFile ∧
        VariablesGive environment fromVariables ∧
        (default.overlay fromFile).overlay fromVariables = config := by
  simp only [load, Outcome.bind_ok_iff, fileLayer_eq_ok_iff, environmentLayer_eq_ok_iff]
  constructor
  · rintro ⟨fromFile, hfile, fromVariables, hvariables, h⟩
    exact ⟨fromFile, fromVariables, hfile, hvariables, Except.ok.inj h⟩
  · rintro ⟨fromFile, fromVariables, hfile, hvariables, h⟩
    exact ⟨fromFile, hfile, fromVariables, hvariables, congrArg Except.ok h⟩

theorem load_of_parts {file : Layer} {level : Option Log.Level} {type : Option QueryType}
    {format : Option OutputFormat} (hfile : fileLayer files environment given = .ok file)
    (hlevel : environmentLevel environment = .ok level)
    (htype : environmentType environment = .ok type)
    (hformat : environmentFormat environment = .ok format) :
    load files environment given =
      .ok ((default.overlay file).overlay ⟨level, format, none, type⟩) := by
  rw [load, environmentLayer, hfile, hlevel, htype, hformat]
  rfl

theorem exists_parts_of_load {config : Config} (h : load files environment given = .ok config) :
    ∃ file level type format, fileLayer files environment given = .ok file ∧
      environmentLevel environment = .ok level ∧ environmentType environment = .ok type ∧
      environmentFormat environment = .ok format ∧
      (default.overlay file).overlay ⟨level, format, none, type⟩ = config := by
  obtain ⟨file, hfile, h⟩ := Outcome.bind_ok_iff.mp h
  obtain ⟨_, hlayer, h⟩ := Outcome.bind_ok_iff.mp h
  obtain ⟨level, hlevel, hlayer⟩ := Outcome.bind_ok_iff.mp hlayer
  obtain ⟨type, htype, hlayer⟩ := Outcome.bind_ok_iff.mp hlayer
  obtain ⟨format, hformat, hlayer⟩ := Outcome.bind_ok_iff.mp hlayer
  cases hlayer
  exact ⟨file, level, type, format, hfile, hlevel, htype, hformat, Except.ok.inj h⟩

/-- Two layers lie over the defaults at each setting by itself. -/
theorem overlay_overlay_default (fromFile fromVariables : Layer) :
    (default.overlay fromFile).overlay fromVariables =
      { logLevel := fromVariables.logLevel <|> fromFile.logLevel
        format := (fromVariables.format <|> fromFile.format).getD .text
        pretty := (fromVariables.pretty <|> fromFile.pretty).getD false
        defaultType := (fromVariables.defaultType <|> fromFile.defaultType).getD .fcs } := by
  have hgetD : ∀ {α : Type} (upper lower : Option α) (x : α),
      upper.getD (lower.getD x) = (upper <|> lower).getD x := by
    intro α upper lower x
    cases upper <;> rfl
  simp only [overlay, default, hgetD]
  congr 2
  cases fromFile.logLevel <;> rfl

/-- Each setting is that of its variable, or else that of the file in use, or else the default.
There is a configuration exactly if the file in use, if there is any, can be read and every variable
that is set names something. Otherwise the error is that of the first fault, and names the path or
the value that is at fault. -/
theorem load_settings (files : FileSystem) (environment : Environment) (given : Option String) :
    (∀ config, load files environment given = .ok config ↔ ∃ fromFile fromVariables,
      FileGives files environment given fromFile ∧ VariablesGive environment fromVariables ∧
      config.logLevel = (fromVariables.logLevel <|> fromFile.logLevel) ∧
      config.format = (fromVariables.format <|> fromFile.format).getD .text ∧
      config.pretty = fromFile.pretty.getD false ∧
      config.defaultType = (fromVariables.defaultType <|> fromFile.defaultType).getD .fcs) ∧
    ((∃ config, load files environment given = .ok config) ↔
      (∃ fromFile, FileGives files environment given fromFile) ∧
        ∃ fromVariables, VariablesGive environment fromVariables) ∧
    (∀ error, load files environment given = .error error ↔
      First (faults files environment given) error) ∧
    ∀ error : LoadError, ∃ words, error.context = words ++ error.subject := by
  have hload : ∀ config, load files environment given = .ok config ↔ ∃ fromFile fromVariables,
      FileGives files environment given fromFile ∧ VariablesGive environment fromVariables ∧
        (default.overlay fromFile).overlay fromVariables = config := fun _ => load_eq_ok_iff
  refine ⟨fun config => ?_, ?_, load_eq_error_iff, LoadError.context_ends⟩
  · rw [hload]
    refine exists_congr fun fromFile => exists_congr fun fromVariables => ?_
    refine and_congr_right fun _ => ?_
    refine and_congr_right fun hvariables => ?_
    rw [overlay_overlay_default, hvariables.pretty]
    cases config with
    | mk logLevel format pretty defaultType =>
        rw [Config.mk.injEq]
        constructor <;> exact fun ⟨h, i, j, k⟩ => ⟨h.symm, i.symm, j.symm, k.symm⟩
  · constructor
    · rintro ⟨config, h⟩
      obtain ⟨fromFile, fromVariables, hfile, hvariables, -⟩ := (hload config).mp h
      exact ⟨⟨fromFile, hfile⟩, ⟨fromVariables, hvariables⟩⟩
    · rintro ⟨⟨fromFile, hfile⟩, ⟨fromVariables, hvariables⟩⟩
      exact ⟨_, (hload _).mpr ⟨fromFile, fromVariables, hfile, hvariables, rfl⟩⟩

/-- A file that gives only some settings, at a path of its own while the default file is passed
over, under two variables. With two faulty variables more the query type is blamed, not the
format. -/
theorem load_settings_partial :
    load ⟨[("/c", .file (some "log_level = \"off\"\noutput.pretty = true\n"))], "", []⟩
        ⟨some "WARN", some " Cql\t", none, true, none, none⟩ (some "/c") =
      .ok ⟨some .warn, .text, true, .cql⟩ ∧
    load ⟨[("/c", .file (some "log_level = \"off\"\noutput.pretty = true\n"))], "", []⟩
        ⟨some "WARN", some "c ql", some " json", true, none, none⟩ (some "/c") =
      .error (.invalidType "c ql" (.unsupportedQueryType "c ql")) := by
  have hfile : ∀ environment,
      FileGives ⟨[("/c", .file (some "log_level = \"off\"\noutput.pretty = true\n"))], "", []⟩
        environment (some "/c") ⟨some .off, none, some true, none⟩ := fun environment =>
    .file (.given (by decide)) rfl (Layer.ofText?_eq_some_iff.mp (by decide +kernel))
  constructor
  · refine ((load_settings _ _ _).1 _).mpr ⟨_, ⟨some .warn, none, none, some .cql⟩, hfile _, ?_,
      rfl, rfl, rfl, rfl⟩
    exact ⟨.set rfl, .set (QueryType.ofText?_eq_some_iff.mp (by decide +kernel)), .unset, rfl⟩
  · refine ((load_settings _ _ _).2.2.1 _).mpr (.later ?_ (.later ?_ (.here ?_)))
    · intro other hfault
      cases (fileLayer_eq_ok_iff.mpr (hfile _)).symm.trans (fileLayer_eq_error_iff.mpr hfault)
    · rintro _ ⟨hnone⟩
      exact hnone .warn rfl
    · exact .namesNothing (QueryType.ofText?_eq_none_iff.mp (by decide +kernel))

end Loading

end CorpusQuery.Config
