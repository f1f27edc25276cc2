/-
  CorpusQuery.Proofs.Cli.Answers

  What the tool answers to a JSON value that it is to translate: a corpus query
  or a failure, and warnings. The answer depends on the value, the language
  given for it and the default alone; a run writes it out.
-/
import CorpusQuery.Proofs.Cli.Reports
import CorpusQuery.Proofs.Cli.Translation

namespace CorpusQuery.Cli

variable {world : World} {config : Config} {invocation : Invocation}

/-! ## Values -/

/-- Finds the query of a JSON value and the corpus query for it. -/
def translateInput (given : Option String) (defaultType : QueryType) (value : Json) :
    Logged Failure String := do
  let (declared, query) ←
    Logged.ofExcept ((Query.ofInput given defaultType value).mapError Failure.input)
  (query.toCqp declared).mapError Failure.refused

theorem translateInput_of_ok {given : Option String} {defaultType : QueryType} {value : Json}
    {declared : String} {query : Query}
    (h : Query.ofInput given defaultType value = .ok (declared, query)) :
    translateInput given defaultType value = (query.toCqp declared).mapError Failure.refused := by
  have hread : (Query.ofInput given defaultType value).mapError Failure.input =
      .ok (declared, query) := by
    rw [h]
    rfl
  rw [translateInput, hread, Logged.ofExcept_ok, Logged.ok_bind]

theorem translateInput_of_error {given : Option String} {defaultType : QueryType} {value : Json}
    {error : Query.InputError} (h : Query.ofInput given defaultType value = .error error) :
    translateInput given defaultType value = .fail (.input error) := by
  have hread : (Query.ofInput given defaultType value).mapError Failure.input =
      .error (.input error) := by
    rw [h]
    rfl
  rw [translateInput, hread, Logged.ofExcept_error, Logged.fail_bind]

/-- This is what the command does with the JSON value that it reads: it writes the corpus query or
fails in the same way, and warns of the same. -/
theorem translate_eq_translateInput {world : World} {config : Config} {given path : Option String}
    {text : String} {value : Json} (hread : readQuery world path = .ok text)
    (hparse : Json.parse text = some value) :
    (translate world config given path).outcome.map Result.lines =
      (translateInput given config.defaultType value).outcome.map ([·]) ∧
    (translate world config given path).warnings =
      (translateInput given config.defaultType value).warnings := by
  have hquery : queryOfText given config.defaultType text =
      (Query.ofInput given config.defaultType value).mapError Failure.input := by
    rw [queryOfText, hparse]
  unfold translate translateInput
  rw [hread, Logged.ofExcept_ok, Logged.ok_bind, hquery]
  cases (Query.ofInput given config.defaultType value).mapError Failure.input with
  | error failure =>
      simp only [Logged.ofExcept_error, Logged.fail_bind]
      exact ⟨rfl, rfl⟩
  | ok found =>
      obtain ⟨declared, query⟩ := found
      simp only [Logged.ofExcept_ok, Logged.ok_bind]
      generalize (query.toCqp declared).mapError Failure.refused = computation
      -- Neither of the two events that the command adds is a warning.
      have hread : (Log.Event.queryRead declared).isWarning = false := rfl
      have hdone : ∀ cqp, (Log.Event.queryDone cqp).isWarning = false := fun _ => rfl
      constructor
      · simp only [Logged.outcome_bind, Logged.outcome_report, Logged.outcome_pure, Except.bind]
        cases computation.outcome with
        | ok cqp => rfl
        | error failure => rfl
      · simp only [Logged.warnings_bind, Logged.warnings_report, Logged.warnings_pure,
          Logged.outcome_report, hread, hdone, Bool.false_eq_true, if_false, List.nil_append]
        cases computation.outcome with
        | ok cqp => exact List.append_nil _
        | error failure => exact List.append_nil _

/-! ## Runs -/

/-- The run is to translate a JSON value, which is what it reads, with the language that is given
for it, under a configuration. -/
structure Invocation.Translates (world : World) (config : Config) (given : Option String)
    (value : Json) (invocation : Invocation) : Prop where
  load : invocation.load world = .ok config
  reads : ∃ path text, invocation.command = .translate given path ∧
    readQuery world path = .ok text ∧ Json.parse text = some value

/-- The run gives the answer: its warnings, and the corpus query, which is the whole output where
lines are asked for, or the line for the failure and no output. -/
structure Report.Gives (format : OutputFormat) (answer : Logged Failure String)
    (report : Report) : Prop where
  warnings : report.events.filter Log.Event.isWarning = answer.warnings
  ending : match answer.outcome with
    | .ok cqp => report.code = 0 ∧ report.errors = "" ∧
        (format = .text → report.output = cqp ++ "\n")
    | .error failure => report.code = 1 ∧ report.errors = line (failure.line format) ∧
        report.output = ""

/-- A run that translates a value gives the answer to it. -/
theorem runInvocation_gives {given : Option String} {value : Json}
    (h : invocation.Translates world config given value) :
    (runInvocation world invocation).Gives (invocation.configure config).format
      (translateInput given config.defaultType value) := by
  obtain ⟨hload, path, text, hcommand, hread, hparse⟩ := h
  have hanswer : (translate world (invocation.configure config) given path).outcome.map
        Result.lines = (translateInput given config.defaultType value).outcome.map ([·]) ∧
      (translate world (invocation.configure config) given path).warnings =
        (translateInput given config.defaultType value).warnings :=
    translate_eq_translateInput hread hparse
  obtain ⟨houtcome, hwarnings⟩ := hanswer
  have hperform : invocation.perform world config = (world.files,
      ⟨(translate world (invocation.configure config) given path).events,
        (translate world (invocation.configure config) given path).outcome.map fun result =>
          result.render (invocation.configure config)⟩) := by
    rw [Invocation.perform, hcommand]
    exact congrArg _ (Logged.andThen_ok_comp ..)
  constructor
  · -- that there is a configuration is no warning
    rw [events_runInvocation hload, Invocation.events, hperform, ← hwarnings]
    rfl
  · cases htranslate : (translate world (invocation.configure config) given path).outcome with
    | ok result =>
        rw [htranslate] at houtcome hperform
        obtain ⟨cqp, hcqp, hlines⟩ := Outcome.map_ok_iff.mp houtcome.symm
        rw [hcqp, runInvocation_of_ok hload (congrArg (·.2.outcome) hperform)]
        refine ⟨rfl, rfl, fun htext => ?_⟩
        show result.render (invocation.configure config) = cqp ++ "\n"
        rw [Result.render, htext, ← hlines]
        exact join_line cqp
    | error failure =>
        rw [htranslate] at houtcome hperform
        rw [Outcome.map_error_iff.mp houtcome.symm,
          runInvocation_of_error hload (congrArg (·.2.outcome) hperform)]
        exact ⟨rfl, rfl, rfl⟩

end CorpusQuery.Cli
