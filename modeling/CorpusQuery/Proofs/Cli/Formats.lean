/-
  CorpusQuery.Proofs.Cli.Formats

  Text and JSON say the same. A run that asks for one format and a run that asks
  for the other end alike, and write what was found: as lines of text, or as one
  JSON document that reads back. They log the same lines as well, unless the
  environment asks for the line that shows the configuration, which tells the
  format of its own run.
-/
import CorpusQuery.Proofs.Cli.Reports
import CorpusQuery.Proofs.Cli.Switches
import CorpusQuery.Proofs.Cli.Translation
import CorpusQuery.Proofs.Log.Lines

namespace CorpusQuery.Cli

variable {world : World} {config : Config}

/-! ## What a command finds -/

/-- The names are the candidates of the tag, one to a line of the text and in the same order in the
document, which has the tag as it was given. -/
def TagAgrees (tag : String) (names : List String) (text : String) (document : Json) : Prop :=
  text = String.join (names.map (· ++ "\n")) ∧
    document = .obj [("candidates", .arr (names.map .str)), ("tag", .str tag)]

/-- The text and the document hold what the command finds: of a query its corpus query, with the
language of its tree in the document; of a tag its candidates. -/
def Command.Agrees (world : World) (config : Config) (command : Command) (text : String)
    (document : Json) : Prop :=
  match command with
  | .translate given path => ∃ contents declared query cqp,
      readQuery world path = .ok contents ∧
      queryOfText given config.defaultType contents = .ok (declared, query) ∧
      (query.toCqp declared).outcome = .ok cqp ∧ text = cqp ++ "\n" ∧
      document = .obj [("cqp", .str cqp), ("query_type", .str query.type.word)]
  | .tagToSuc tag => ∃ tags, PartOfSpeech.sucCandidates tag = .ok tags ∧
      TagAgrees tag (tags.map SucTag.name) text document
  | .tagToUd tag => ∃ tags, PartOfSpeech.udCandidates tag = .ok tags ∧
      TagAgrees tag (tags.map UdTag.name) text document
  | _ => False

/-- The command is one that finds something. -/
def Command.IsFinding : Command → Prop
  | .translate _ _ => True
  | .tagToSuc _ => True
  | .tagToUd _ => True
  | _ => False

/-- A result whose document is shallow and holds no number. -/
structure Result.IsPlain (result : Result) : Prop where
  depth : result.value.canonical.depth ≤ Json.depthLimit
  numbers : result.value.canonical.NumbersReadBack

/-- The result in JSON is one document. -/
theorem Result.IsPlain.parse_render {result : Result} (h : result.IsPlain)
    (hjson : config.format = .json) :
    result.render config =
        (if config.pretty then result.value.canonical.pretty
          else result.value.canonical.compact) ++ "\n" ∧
      Json.parse (result.render config) = some result.value.canonical := by
  have hrender : result.render config = (if config.pretty then result.value.canonical.pretty
      else result.value.canonical.compact) ++ "\n" := by
    rw [Result.render, hjson]
    rfl
  refine ⟨hrender, ?_⟩
  rw [hrender]
  cases config.pretty with
  | true => exact Json.parse_pretty_line h.depth h.numbers
  | false => exact Json.parse_compact_line h.depth h.numbers

/-! ## Documents of texts -/

theorem canonicalItems_str (names : List String) :
    Json.canonicalItems (names.map .str) = names.map .str := by
  induction names with
  | nil => rfl
  | cons name rest ih =>
      rw [List.map_cons, Json.canonicalItems, ih]
      rfl

theorem depthItems_str (names : List String) : Json.depthItems (names.map .str) = 0 := by
  induction names with
  | nil => rfl
  | cons name rest ih =>
      rw [List.map_cons, Json.depthItems, ih]
      rfl

theorem itemNumbersReadBack_str (names : List String) :
    Json.ItemNumbersReadBack (names.map .str) := by
  induction names with
  | nil => trivial
  | cons name rest ih => exact ⟨trivial, ih⟩

/-- An object with two members of different names has them in order. -/
theorem canonical_pair {first second : String} (hlt : first < second) (hne : ¬ second < first)
    (a b : Json) :
    Json.canonical (.obj [(second, a), (first, b)]) =
      .obj [(first, b.canonical), (second, a.canonical)] := by
  have hneq : second ≠ first := by
    rintro rfl
    exact hne hlt
  simp only [Json.canonical, Json.canonicalMembers, Json.addMember, if_neg hne, if_neg hneq]

/-! ## Findings -/

/-- The findings do not depend on the format, and both ways to write them agree. -/
structure Command.Finds (world : World) (config : Config) (command : Command)
    (findings : Logged Failure Result) : Prop where
  perform : ∀ format, Cli.perform world { config with format := format } command =
    (world.files,
      findings.andThen fun result => .ok (result.render { config with format := format }))
  isPlain : ∀ result, findings.outcome = .ok result → result.IsPlain
  agrees : ∀ result, findings.outcome = .ok result →
    command.Agrees world config (String.join (result.lines.map line)) result.value.canonical

/-- A translation finds the corpus query for the query that it is handed. -/
theorem exists_of_translate {given path : Option String} {result : Result}
    (h : (translate world config given path).outcome = .ok result) :
    ∃ contents declared query cqp, readQuery world path = .ok contents ∧
      queryOfText given config.defaultType contents = .ok (declared, query) ∧
      (query.toCqp declared).outcome = .ok cqp ∧
      result = ⟨[cqp], .obj [("query_type", .str query.type.word), ("cqp", .str cqp)]⟩ := by
  simp only [translate, Logged.outcome_bind, Logged.outcome_ofExcept, Logged.outcome_report,
    Logged.outcome_pure] at h
  obtain ⟨contents, hcontents, h⟩ := Outcome.bind_ok_iff.mp h
  obtain ⟨⟨declared, query⟩, hquery, h⟩ := Outcome.bind_ok_iff.mp h
  obtain ⟨-, -, h⟩ := Outcome.bind_ok_iff.mp h
  obtain ⟨cqp, hcqp, h⟩ := Outcome.bind_ok_iff.mp h
  obtain ⟨-, -, h⟩ := Outcome.bind_ok_iff.mp h
  cases h
  refine ⟨contents, declared, query, cqp, hcontents, hquery, ?_, rfl⟩
  cases houtcome : (query.toCqp declared).outcome with
  | ok found =>
      rw [Logged.mapError, houtcome] at hcqp
      cases hcqp
      rfl
  | error refusal =>
      rw [Logged.mapError, houtcome] at hcqp
      cases hcqp

theorem canonical_translation (type cqp : String) :
    Json.canonical (.obj [("query_type", .str type), ("cqp", .str cqp)]) =
      .obj [("cqp", .str cqp), ("query_type", .str type)] :=
  canonical_pair (by decide) (by decide) _ _

theorem finds_translate (world : World) (config : Config) (given path : Option String) :
    (Command.translate given path).Finds world config (translate world config given path) := by
  refine ⟨fun format => rfl, ?_, ?_⟩
  · intro result h
    obtain ⟨contents, declared, query, cqp, -, -, -, rfl⟩ := exists_of_translate h
    constructor
    · show (Json.canonical (.obj _)).depth ≤ _
      rw [canonical_translation]
      exact Nat.le_of_ble_eq_true rfl
    · show (Json.canonical (.obj _)).NumbersReadBack
      rw [canonical_translation]
      exact ⟨trivial, trivial, trivial⟩
  · intro result h
    obtain ⟨contents, declared, query, cqp, hcontents, hquery, hcqp, rfl⟩ := exists_of_translate h
    refine ⟨contents, declared, query, cqp, hcontents, hquery, hcqp, ?_, canonical_translation ..⟩
    exact join_line cqp

/-- A tag that is looked up has its candidates. -/
theorem exists_of_lookUpTag {tag : String} {candidates : Except Refusal (List String)}
    {result : Result} (h : (lookUpTag tag candidates).outcome = .ok result) :
    ∃ names, candidates = .ok names ∧
      result = ⟨names, .obj [("tag", .str tag), ("candidates", .arr (names.map .str))]⟩ := by
  cases candidates with
  | error refusal => cases h
  | ok names =>
      cases h
      exact ⟨names, rfl, rfl⟩

theorem canonical_candidates (tag : String) (names : List String) :
    Json.canonical (.obj [("tag", .str tag), ("candidates", .arr (names.map .str))]) =
      .obj [("candidates", .arr (names.map .str)), ("tag", .str tag)] := by
  rw [canonical_pair (by decide) (by decide), Json.canonical, canonicalItems_str]
  rfl

/-- What is looked up is plain, and both ways to write it agree. -/
theorem lookUpTag_agrees {tag : String} {candidates : Except Refusal (List String)}
    {result : Result} (h : (lookUpTag tag candidates).outcome = .ok result) :
    result.IsPlain ∧ ∃ names, candidates = .ok names ∧
      TagAgrees tag names (String.join (result.lines.map line)) result.value.canonical := by
  obtain ⟨names, hnames, rfl⟩ := exists_of_lookUpTag h
  refine ⟨⟨?_, ?_⟩, names, hnames, rfl, canonical_candidates tag names⟩
  · show (Json.canonical (.obj _)).depth ≤ _
    rw [canonical_candidates]
    have hdepth : Json.depth (.obj [("candidates", .arr (names.map .str)), ("tag", .str tag)]) =
        max (Json.depthItems (names.map .str) + 1) (max 0 0) + 1 := rfl
    rw [hdepth, depthItems_str]
    decide
  · show (Json.canonical (.obj _)).NumbersReadBack
    rw [canonical_candidates]
    exact ⟨itemNumbersReadBack_str names, trivial, trivial⟩

/-- A command that looks a tag up finds its candidates, by their names. -/
theorem finds_lookUpTag {α : Type} {command : Command} {tag : String} {name : α → String}
    {candidates : Except Refusal (List α)}
    (hperform : ∀ format, Cli.perform world { config with format := format } command =
      (world.files, (lookUpTag tag (candidates.map (·.map name))).andThen fun result =>
        .ok (result.render { config with format := format })))
    (hagrees : ∀ tags text document, candidates = .ok tags →
      TagAgrees tag (tags.map name) text document → command.Agrees world config text document) :
    command.Finds world config (lookUpTag tag (candidates.map (·.map name))) where
  perform := hperform
  isPlain _ h := (lookUpTag_agrees h).1
  agrees result h := by
    obtain ⟨-, names, hnames, hshown⟩ := lookUpTag_agrees h
    obtain ⟨tags, htags, rfl⟩ := Outcome.map_ok_iff.mp hnames
    exact hagrees tags _ _ htags hshown

/-- The commands that find something. -/
theorem Command.IsFinding.exists_finds {command : Command} (h : command.IsFinding) (world : World)
    (config : Config) : ∃ findings, command.Finds world config findings := by
  cases command with
  | translate given path => exact ⟨_, finds_translate world config given path⟩
  | tagToSuc tag =>
      exact ⟨_, finds_lookUpTag (fun _ => rfl) fun tags _ _ htags hshown => ⟨tags, htags, hshown⟩⟩
  | tagToUd tag =>
      exact ⟨_, finds_lookUpTag (fun _ => rfl) fun tags _ _ htags hshown => ⟨tags, htags, hshown⟩⟩
  | configShow json => exact h.elim
  | configInit path force => exact h.elim

/-! ## Two logs -/

/-- The log of the run has a line that shows the configuration. -/
def Invocation.showsConfig (world : World) (invocation : Invocation) (config : Config) : Bool :=
  (invocation.logFilter world config).shows (.configurationLoaded (invocation.configure config))

/-- A level shows no configuration, whatever it is. -/
theorem Invocation.showsConfig_eq_false (h : world.environment.logFilter = none)
    (invocation : Invocation) (config : Config) : invocation.showsConfig world config = false := by
  rw [showsConfig, Invocation.logFilter, Cli.logFilter, h]
  exact Log.Filter.shows_ofLevel _ _

/-- The formats have different names. -/
theorem name_text_ne_json : Log.Shown.name OutputFormat.text.word ≠
    Log.Shown.name OutputFormat.json.word := by
  decide +kernel

/-- A line that shows the configuration tells its format. -/
theorem line_configurationLoaded_ne (config : Config) :
    (Log.Event.configurationLoaded { config with format := .text }).line ≠
      (Log.Event.configurationLoaded { config with format := .json }).line := by
  have hshown : ({ config with format := .text } : Config).shown ≠
      ({ config with format := .json } : Config).shown := by
    simp [Config.shown, Log.Shown.parts, Log.Shown.items, String.append_assoc, name_text_ne_json]
  simp [Log.Event.line, Log.Event.fields, Log.Field.text, Log.Event.severity, Log.Event.message,
    hshown]

/-! ## Two runs -/

/-- A run in a format logs that it has its configuration and what finding the result logs, and
writes the result in that format. -/
theorem runs_of_finds {invocation : Invocation} {findings : Logged Failure Result}
    (hload : invocation.load world = .ok config)
    (hfinds : invocation.command.Finds world config findings) (format : OutputFormat) :
    (runInvocation world (invocation.withFormat format)).logLines =
        (invocation.logFilter world config).lines
          (.configurationLoaded { config with format := format } :: findings.events) ∧
      match findings.outcome with
      | .ok result => (runInvocation world (invocation.withFormat format)).code = 0 ∧
          (runInvocation world (invocation.withFormat format)).output =
            result.render { config with format := format }
      | .error _ => (runInvocation world (invocation.withFormat format)).code = 1 ∧
          (runInvocation world (invocation.withFormat format)).output = "" := by
  have hother : (invocation.withFormat format).load world = .ok config := hload
  have hperform : (invocation.withFormat format).perform world config = (world.files,
      ⟨findings.events,
        findings.outcome.map fun result => result.render { config with format := format }⟩) :=
    (hfinds.perform format).trans (congrArg _ (Logged.andThen_ok_comp ..))
  constructor
  · rw [logLines_runInvocation hother, Invocation.logLines, Invocation.events, hperform]
    rfl
  · cases houtcome : findings.outcome with
    | ok result =>
        have hok : ((invocation.withFormat format).perform world config).2.outcome =
            .ok (result.render { config with format := format }) := by
          rw [hperform, houtcome]
          rfl
        rw [runInvocation_of_ok hother hok]
        exact ⟨rfl, rfl⟩
    | error failure =>
        have herror : ((invocation.withFormat format).perform world config).2.outcome =
            .error failure := by
          rw [hperform, houtcome]
          rfl
        rw [runInvocation_of_error hother herror]
        exact ⟨rfl, rfl⟩

/-- What runs log that differ in the format only: the same lines, and in front of them the one that
shows the configuration of each, if the log has it. -/
theorem logLines_withFormat {invocation : Invocation} {findings : Logged Failure Result}
    (hload : invocation.load world = .ok config)
    (hfinds : invocation.command.Finds world config findings) :
    ∃ shared, ∀ format,
      (invocation.showsConfig world config = false →
        (runInvocation world (invocation.withFormat format)).logLines = shared) ∧
      (invocation.showsConfig world config = true →
        (runInvocation world (invocation.withFormat format)).logLines =
          (Log.Event.configurationLoaded { config with format := format }).line :: shared) := by
  refine ⟨(invocation.logFilter world config).lines findings.events, fun format => ?_⟩
  -- The filter looks at where an event comes from and how severe it is, not at what it shows.
  have hshows : (invocation.logFilter world config).shows
      (.configurationLoaded { config with format := format }) =
        invocation.showsConfig world config := rfl
  rw [(runs_of_finds hload hfinds format).1, Log.Filter.lines_cons, hshows]
  constructor
  · intro hhidden
    rw [hhidden, if_neg Bool.false_ne_true, List.nil_append]
  · intro hshown
    rw [hshown, if_pos rfl, List.singleton_append]

/-- How runs end does not depend on the format. -/
theorem code_withFormat {invocation : Invocation} {findings : Logged Failure Result}
    (hload : invocation.load world = .ok config)
    (hfinds : invocation.command.Finds world config findings) (first second : OutputFormat) :
    (runInvocation world (invocation.withFormat first)).code =
      (runInvocation world (invocation.withFormat second)).code := by
  have hfirst := (runs_of_finds hload hfinds first).2
  have hsecond := (runs_of_finds hload hfinds second).2
  cases houtcome : findings.outcome with
  | ok result =>
      rw [houtcome] at hfirst hsecond
      exact hfirst.1.trans hsecond.1.symm
  | error failure =>
      rw [houtcome] at hfirst hsecond
      exact hfirst.1.trans hsecond.1.symm

/-- Text and JSON say the same. Arguments that give no format are also read with a format in front
of them. A run of a translation or of a look-up with the format `text` and one with the format
`json` end with the same code. They log the same lines, except that a line which shows the
configuration, as only the environment can ask for, shows in each the configuration of its own. If
they succeed, the output of the second is one JSON document, dense or indented as configured, that
holds what the first writes as text; if not, neither has any output. -/
theorem formats_agree (arguments : List String) (world : World) (invocation : Invocation)
    (hread : readAll arguments = .ok invocation) (hnone : invocation.format = none)
    (hfinding : invocation.command.IsFinding) :
    (∀ format : OutputFormat, readAll (("--format=" ++ format.word) :: arguments) =
      .ok (invocation.withFormat format)) ∧
    (world.environment.logFilter = none →
      ∀ config, invocation.showsConfig world config = false) ∧
    ∀ asText asJson, readAll asText = .ok (invocation.withFormat .text) →
      readAll asJson = .ok (invocation.withFormat .json) →
      ∃ text json, run asText world = .ran text ∧ run asJson world = .ran json ∧
        text.code = json.code ∧
        ((∀ config, invocation.load world = .ok config →
            invocation.showsConfig world config = false) → text.logLines = json.logLines) ∧
        (∀ config, invocation.load world = .ok config →
          invocation.showsConfig world config = true → ∃ shared,
            text.logLines =
              (Log.Event.configurationLoaded { config with format := .text }).line :: shared ∧
            json.logLines =
              (Log.Event.configurationLoaded { config with format := .json }).line :: shared ∧
            text.logLines ≠ json.logLines) ∧
        (text.code = 0 → ∃ config document, invocation.load world = .ok config ∧
          json.output = (if config.pretty then document.pretty else document.compact) ++ "\n" ∧
          Json.parse json.output = some document ∧
          invocation.command.Agrees world config text.output document) ∧
        (text.code ≠ 0 → text.output = "" ∧ json.output = "") := by
  refine ⟨readAll_withFormat hread hnone, fun hfilter =>
    Invocation.showsConfig_eq_false hfilter invocation, fun asText asJson hasText hasJson => ?_⟩
  refine ⟨_, _, run_of_read hasText, run_of_read hasJson, ?_⟩
  -- Both runs load the same configuration and find the same.
  cases hload : invocation.load world with
  | error error =>
      have hother : ∀ format, (invocation.withFormat format).load world = .error error :=
        fun _ => hload
      rw [runInvocation_of_not_loaded (hother .text), runInvocation_of_not_loaded (hother .json)]
      exact ⟨rfl, fun _ => rfl, nofun, nofun, fun _ => ⟨rfl, rfl⟩⟩
  | ok config =>
      obtain ⟨findings, hfinds⟩ := hfinding.exists_finds world config
      obtain ⟨-, htext⟩ := runs_of_finds hload hfinds .text
      obtain ⟨-, hjson⟩ := runs_of_finds hload hfinds .json
      obtain ⟨shared, hlog⟩ := logLines_withFormat hload hfinds
      refine ⟨code_withFormat hload hfinds .text .json, ?_, ?_, ?_⟩
      · intro hhidden
        rw [(hlog .text).1 (hhidden config rfl), (hlog .json).1 (hhidden config rfl)]
      · intro loaded hloaded hshown
        cases hloaded
        have htextLog := (hlog .text).2 hshown
        have hjsonLog := (hlog .json).2 hshown
        refine ⟨shared, htextLog, hjsonLog, fun heq => ?_⟩
        exact line_configurationLoaded_ne config
          (List.cons.inj (htextLog.symm.trans (heq.trans hjsonLog))).1
      -- What is written is left, and it depends on whether something was found.
      cases houtcome : findings.outcome with
      | error failure =>
          rw [houtcome] at htext hjson
          refine ⟨fun hzero => ?_, fun _ => ⟨htext.2, hjson.2⟩⟩
          cases htext.1.symm.trans hzero
      | ok result =>
          rw [houtcome] at htext hjson
          refine ⟨fun _ => ?_, fun hcode => absurd htext.1 hcode⟩
          have hdocument : (_ ∧ _) := (hfinds.isPlain result houtcome).parse_render
            (show ({ config with format := .json } : Config).format = .json from rfl)
          rw [htext.2, hjson.2]
          exact ⟨config, _, rfl, hdocument.1, hdocument.2, hfinds.agrees result houtcome⟩

/-- The tag of a verb has two candidates, in one order in both formats. -/
theorem formats_agree_verb :
    ∃ text json, run ["-f", "text", "tag", "to-ud", "vb.PRS"] wordWorld = .ran text ∧
      run ["tag", "to-ud", "vb.PRS", "--format", "json"] wordWorld = .ran json ∧
      text.code = 0 ∧ json.code = 0 ∧ text.logLines = json.logLines ∧
      text.output = "VERB\nAUX\n" ∧
      Json.parse json.output =
        some (.obj [("candidates", .arr [.str "VERB", .str "AUX"]), ("tag", .str "vb.PRS")]) := by
  obtain ⟨-, hhidden, hruns⟩ := formats_agree ["tag", "to-ud", "vb.PRS"] wordWorld
    ⟨none, false, none, none, .tagToUd "vb.PRS"⟩ (by decide +kernel) rfl trivial
  obtain ⟨text, json, htext, hjson, hcode, hlog, -, hok, -⟩ := hruns
    ["-f", "text", "tag", "to-ud", "vb.PRS"] ["tag", "to-ud", "vb.PRS", "--format", "json"]
    (by decide +kernel) (by decide +kernel)
  have hzero : text.code = 0 := by
    have hrun : run ["-f", "text", "tag", "to-ud", "vb.PRS"] wordWorld =
        .ran (runInvocation wordWorld ⟨none, false, none, some .text, .tagToUd "vb.PRS"⟩) :=
      run_of_read (by decide +kernel)
    rw [Outcome.ran.inj (htext.symm.trans hrun)]
    decide +kernel
  obtain ⟨config, document, -, -, hparse, tags, htags, htagsText, rfl⟩ := hok hzero
  cases htags
  exact ⟨text, json, htext, hjson, hzero, hcode.symm.trans hzero,
    hlog fun config _ => hhidden rfl config, htagsText, hparse⟩

/-- A run that is asked by its environment to log all that is not a mere trace. -/
def debugWorld : World :=
  ⟨⟨none, none, none, true, some "debug", none⟩, ⟨[], "", []⟩, some ""⟩

/-- Then the first line tells the format, and the logs differ. -/
theorem debug_log_tells_format :
    ∃ text json, readAll ["tag", "to-suc", "NOUN"] =
        .ok ⟨none, false, none, none, .tagToSuc "NOUN"⟩ ∧
      run ["--format", "text", "tag", "to-suc", "NOUN"] debugWorld = .ran text ∧
      run ["--format", "json", "tag", "to-suc", "NOUN"] debugWorld = .ran json ∧
      text.code = 0 ∧ json.code = 0 ∧
      text.logLines = [
        "DEBUG configuration loaded config=CliConfig \x7b log_level: None, output: " ++
          "OutputConfig \x7b format: Text, pretty: false \x7d, query: " ++
          "QueryConfig \x7b default_type: Fcs \x7d \x7d",
        "DEBUG mapped part-of-speech tag tag=NOUN candidates=[\"NN\"]"] ∧
      json.logLines = [
        "DEBUG configuration loaded config=CliConfig \x7b log_level: None, output: " ++
          "OutputConfig \x7b format: Json, pretty: false \x7d, query: " ++
          "QueryConfig \x7b default_type: Fcs \x7d \x7d",
        "DEBUG mapped part-of-speech tag tag=NOUN candidates=[\"NN\"]"] ∧
      text.logLines ≠ json.logLines := by
  have hrun : ∀ format, readAll ["--format", OutputFormat.word format, "tag", "to-suc", "NOUN"] =
      .ok ⟨none, false, none, some format, .tagToSuc "NOUN"⟩ := by
    intro format
    cases format <;> decide +kernel
  refine ⟨_, _, by decide +kernel, run_of_read (hrun .text), run_of_read (hrun .json), ?_⟩
  decide +kernel

end CorpusQuery.Cli
