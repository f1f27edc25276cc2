/-
  CorpusQuery.Proofs.Cli.Translation

  The command line tool translates what it is handed: a run on the JSON text of
  a query, however it is passed, ends as the translation of the query itself.
-/
import CorpusQuery.Proofs.Cli.CommandLines
import CorpusQuery.Proofs.Query.RoundTrip

namespace CorpusQuery

/-! ## Declared query types -/

namespace Text

/-- A text that begins with a character is not one that begins otherwise. -/
theorem ofList_cons_ne {c : Char} {rest : List Char} {text : String}
    (h : text.toList.head? ≠ some c) : String.ofList (c :: rest) ≠ text := by
  rintro rfl
  rw [String.toList_ofList] at h
  exact h rfl

/-- Trimming keeps a first character that is no blank. -/
theorem trim_cons {c : Char} (hc : isBlank c = false) (rest : List Char) :
    ∃ more, trim (c :: rest) = c :: more := by
  refine ⟨(rest.reverse.dropWhile isBlank).reverse, ?_⟩
  have hfront : (c :: rest).dropWhile isBlank = c :: rest :=
    List.dropWhile_cons_of_neg (by rw [hc]; exact Bool.false_ne_true)
  have hback : (rest.reverse ++ [c]).dropWhile isBlank = rest.reverse.dropWhile isBlank ++ [c] := by
    rw [List.dropWhile_append]
    split
    · rename_i hempty
      rw [List.isEmpty_iff.mp hempty]
      exact List.dropWhile_cons_of_neg (by rw [hc]; exact Bool.false_ne_true)
    · rfl
  rw [trim, trimWhere, hfront, List.reverse_cons, hback, List.reverse_append]
  rfl

end Text

/-- A text that names a query language does not begin with a dash. -/
theorem QueryType.head?_of_ofText {declared : String} {type : QueryType}
    (h : QueryType.ofText declared = .ok type) : declared.toList.head? ≠ some '-' := by
  intro hhead
  obtain ⟨rest, hdeclared⟩ := List.head?_eq_some_iff.mp hhead
  obtain ⟨more, htrim⟩ := Text.trim_cons (c := '-') (by decide) rest
  have hlower : Text.lower ('-' :: more) = '-' :: Text.lowerAfter ['-'] more := rfl
  have hnone : QueryType.ofText? declared = none := by
    -- Neither of the words for the languages begins with a dash.
    rw [QueryType.ofText?, hdeclared, htrim, hlower, QueryType.ofWord?,
      if_neg (Text.ofList_cons_ne (by decide)), if_neg (Text.ofList_cons_ne (by decide))]
  rw [QueryType.ofText, hnone] at h
  cases h

/-! ## Input -/

namespace Query

/-- An envelope is told by its members, and declares the language of its tree unless a text is
given for it. -/
theorem ofInput_toJson (query : Query) (given : Option String) (defaultType : QueryType) :
    ofInput given defaultType query.toJson = .ok (given.getD query.type.word, query) := by
  have henvelope : isEnveloped query.toJson = true := by
    simp [isEnveloped, Json.has, toJson, Json.get?]
  rw [ofInput, if_pos henvelope, query.ofJson?_toJson]

/-- No tree has the members of an envelope. -/
theorem isEnveloped_treeToJson (query : Query) : isEnveloped query.treeToJson = false := by
  have htype : query.treeToJson.get? "query_type" = none := by
    cases query with
    | cql tree =>
        cases tree with
        | triple operator left right => simp [treeToJson, Cql.Node.toJson, Json.get?]
        | searchClause index relation term => simp [treeToJson, Cql.Node.toJson, Json.get?]
    | fcs tree =>
        cases tree <;> simp [treeToJson, Fcs.Node.toJson, Fcs.Segment.members, Fcs.boundMembers,
          Json.get?]
  rw [isEnveloped, Json.has, htype]
  rfl

/-- A bare tree is read as a query of the language that is given with it, or of the default. -/
theorem ofInput_treeToJson {query : Query} {given : Option String} {defaultType : QueryType}
    (h : QueryType.ofText (given.getD defaultType.word) = .ok query.type) :
    ofInput given defaultType query.treeToJson = .ok (given.getD defaultType.word, query) := by
  rw [ofInput, query.isEnveloped_treeToJson]
  simp only [Bool.false_eq_true, if_false, h]
  rw [query.ofTree?_treeToJson]

/-- A query under the type that it has is translated by the rules of its language. -/
theorem toCqp_of_declared {query : Query} {declared : String}
    (h : QueryType.ofText declared = .ok query.type) : query.toCqp declared = query.treeToCqp := by
  rw [toCqp, h, Logged.ofExcept_ok, Logged.ok_bind, if_pos rfl]

end Query

/-! ## Runs -/

/-- No variable is set but the one that passes over the default configuration file, and perhaps the
filter of log events. -/
structure Environment.IsPlain (environment : Environment) : Prop where
  logLevel : environment.logLevel = none
  queryType : environment.queryType = none
  outputFormat : environment.outputFormat = none
  testMode : environment.testMode = true

theorem Config.load_of_isPlain (files : FileSystem) {environment : Environment}
    (h : environment.IsPlain) : Config.load files environment none = .ok .default := by
  have hfile : Config.fileInUse files environment none = .ok none := by
    rw [Config.fileInUse, h.testMode]
    rfl
  have hlayer : Config.environmentLayer environment = .ok .empty := by
    rw [Config.environmentLayer, Config.environmentLevel, Config.environmentType,
      Config.environmentFormat, h.logLevel, h.queryType, h.outputFormat]
    rfl
  rw [Config.load, Config.fileLayer, hfile, hlayer]
  rfl

namespace Cli

/-- How a query is written: as its envelope, or as its bare tree with a word for its language. -/
inductive Form where
  | envelope
  | bare (declared : String)
  deriving DecidableEq, Repr

/-- The JSON value that is handed in. -/
def Form.json (query : Query) : Form → Json
  | .envelope => query.toJson
  | .bare _ => query.treeToJson

/-- The language that goes with the JSON value. -/
def Form.declared? : Form → Option String
  | .envelope => none
  | .bare declared => some declared

/-- What goes with the JSON value names the language. -/
def Form.Names (form : Form) (type : QueryType) : Prop :=
  ∀ declared, form.declared? = some declared → QueryType.ofText declared = .ok type

/-- The text can be had through the channel. A path that begins with a dash would be a switch. -/
def Channel.Carries (world : World) (text : String) : Channel → Prop
  | .file path => path.toList.head? ≠ some '-' ∧ world.files.readText? path = some text
  | .input => world.input = some text
  | .dash => world.input = some text

/-- The first name of a relative path begins as the path does. -/
theorem names_cons {path : String} {c : Char} {rest : List Char} (h : path.toList = c :: rest)
    (hc : c ≠ '/') : ∃ name later, Path.names path = String.ofList (c :: name) :: later := by
  rw [Path.names, h, Path.split, if_neg hc]
  cases Path.split rest with
  | nil => exact ⟨[], [], rfl⟩
  | cons name later => exact ⟨name, later.map String.ofList, rfl⟩

/-- A path that does not begin with a dash names a file. -/
theorem isStandardInput_eq_false {path : String} (h : path.toList.head? ≠ some '-') :
    isStandardInput path = false := by
  rw [isStandardInput, Bool.and_eq_false_iff]
  cases htext : path.toList with
  | nil =>
      have hcomponents : Path.components path = [] := by
        rw [Path.components, Path.names, htext]
        decide
      exact Or.inr (by rw [hcomponents]; decide)
  | cons c rest =>
      rw [htext] at h
      by_cases hc : c = '/'
      · -- an absolute path
        have habsolute : Path.isAbsolute path = true := by
          rw [Path.isAbsolute, htext, hc]
          rfl
        exact Or.inl (by rw [habsolute]; rfl)
      · obtain ⟨name, later, hnames⟩ := names_cons htext hc
        have hdash : String.ofList (c :: name) ≠ "-" :=
          Text.ofList_cons_ne fun heq => h heq.symm
        refine Or.inr (decide_eq_false ?_)
        rw [Path.components, hnames, List.head?_cons]
        -- The first component is a full stop or the first name, and neither is a dash.
        split
        · exact fun heq => absurd (List.cons.inj heq).1 (by decide)
        · rename_i hstop
          have hempty : String.ofList (c :: name) ≠ "" := Text.ofList_cons_ne nofun
          have hstays : Path.isStay (String.ofList (c :: name)) = false := by
            rw [Path.isStay, decide_eq_false hempty, decide_eq_false fun heq => hstop (by rw [heq])]
            rfl
          rw [List.filter_cons_of_pos (by rw [hstays]; rfl)]
          exact fun heq => hdash (List.cons.inj heq).1

/-- What the channel carries is what the command reads. -/
theorem readQuery_of_carries {world : World} {text : String} {channel : Channel}
    (h : channel.Carries world text) : readQuery world channel.operand? = .ok text := by
  cases channel with
  | file path =>
      obtain ⟨hpath, hread⟩ := h
      have hfile : (some path).filter (fun path => !isStandardInput path) = some path := by
        rw [Option.filter_some, isStandardInput_eq_false hpath]
        rfl
      rw [readQuery, Channel.operand?, hfile]
      simp only [hread]
  | input =>
      have hinput : world.input = some text := h
      rw [readQuery, Channel.operand?, hinput]
      rfl
  | dash =>
      have hinput : world.input = some text := h
      have hdash : (some "-").filter (fun path => !isStandardInput path) = none := by decide
      rw [readQuery, Channel.operand?, hdash, hinput]

/-- The text of a query gives the query back, with a word for its language. -/
theorem queryOfText_of_form {query : Query} {form : Form} (hnames : form.Names query.type)
    (hdepth : query.toJson.depth ≤ Json.depthLimit) (defaultType : QueryType) :
    ∃ declared, QueryType.ofText declared = .ok query.type ∧
      queryOfText form.declared? defaultType (form.json query).compact = .ok (declared, query) := by
  cases form with
  | envelope =>
      refine ⟨query.type.word, ?_, ?_⟩
      · cases query.type <;> decide +kernel
      · have hparse : Json.parse query.toJson.compact = some query.toJson :=
          Json.parse_compact hdepth query.numbersReadBack_toJson
        show queryOfText none defaultType query.toJson.compact = _
        rw [queryOfText, hparse]
        show (Query.ofInput none defaultType query.toJson).mapError Failure.input = _
        rw [query.ofInput_toJson]
        rfl
  | bare declared =>
      have hdeclared : QueryType.ofText declared = .ok query.type := hnames declared rfl
      have hdepthTree : query.treeToJson.depth ≤ Json.depthLimit := by
        have houter : query.toJson.depth = max 0 (max query.treeToJson.depth 0) + 1 := rfl
        omega
      have hparse : Json.parse query.treeToJson.compact = some query.treeToJson :=
        Json.parse_compact hdepthTree query.numbersReadBack_treeToJson
      refine ⟨declared, hdeclared, ?_⟩
      show queryOfText (some declared) defaultType query.treeToJson.compact = _
      rw [queryOfText, hparse]
      show (Query.ofInput (some declared) defaultType query.treeToJson).mapError Failure.input = _
      have hgiven : QueryType.ofText ((some declared).getD defaultType.word) = .ok query.type :=
        hdeclared
      rw [Query.ofInput_treeToJson hgiven]
      rfl

/-- What the tool finds for the text of a query is the corpus query for it, or the same refusal. -/
theorem outcome_translate {world : World} {query : Query} {form : Form} {channel : Channel}
    (config : Config) (hnames : form.Names query.type)
    (hcarries : channel.Carries world (form.json query).compact)
    (hdepth : query.toJson.depth ≤ Json.depthLimit) :
    (translate world config form.declared? channel.operand?).outcome =
      match query.treeToCqp.outcome with
      | .ok cqp => .ok ⟨[cqp], .obj [("query_type", .str query.type.word), ("cqp", .str cqp)]⟩
      | .error refusal => .error (.refused refusal) := by
  obtain ⟨declared, htype, hquery⟩ := queryOfText_of_form hnames hdepth config.defaultType
  have houtcome : ((query.toCqp declared).mapError Failure.refused).outcome
      = query.treeToCqp.outcome.mapError Failure.refused := by
    rw [Logged.mapError, Query.toCqp_of_declared htype]
  simp only [translate, Logged.outcome_bind, Logged.outcome_ofExcept, Logged.outcome_report,
    Logged.outcome_pure, readQuery_of_carries hcarries, Except.bind, hquery, houtcome]
  cases query.treeToCqp.outcome with
  | ok cqp => rfl
  | error refusal => rfl

/-- A single line of text. -/
theorem join_line (text : String) : String.join ([text].map line) = text ++ "\n" := by
  rw [List.map_singleton, String.join_cons, String.join_nil, String.append_empty]
  rfl

/-- A translation that succeeds is written out, and one that fails is reported. -/
theorem runCommand_translate (world : World) (config : Config) {invocation : Invocation}
    {given path : Option String} (hcommand : invocation.command = .translate given path) :
    match (translate world config given path).outcome with
    | .ok result =>
      (runCommand world config invocation).code = 0 ∧
        (runCommand world config invocation).output = result.render config ∧
        (runCommand world config invocation).errors = ""
    | .error failure =>
      (runCommand world config invocation).code = 1 ∧
        (runCommand world config invocation).output = "" ∧
        (runCommand world config invocation).errors = line (failure.line config.format) := by
  have hperform : (perform world config invocation.command).2.outcome
      = (translate world config given path).outcome.map fun result => result.render config := by
    rw [hcommand]
    show (translate world config given path >>= _).outcome = _
    rw [Logged.outcome_bind]
    rfl
  cases houtcome : (translate world config given path).outcome with
  | ok result =>
      rw [houtcome] at hperform
      simp only [runCommand, hperform, Except.map, and_self]
  | error failure =>
      rw [houtcome] at hperform
      simp only [runCommand, hperform, Except.map, and_self]

/-- A run on the text of a query, handed in by whatever way: it ends as the translation of the
query ends, and writes the corpus query or the line for the refusal, and nothing else but log
lines. -/
theorem run_refines_toCqp (query : Query) (form : Form) (channel : Channel)
    (arguments : List String) (world : World)
    (harguments : arguments ∈ commandLines form.declared? channel)
    (hnames : form.Names query.type)
    (hcarries : channel.Carries world (form.json query).compact)
    (henvironment : world.environment.IsPlain)
    (hdepth : query.toJson.depth ≤ Json.depthLimit) :
    ∃ report, run arguments world = .ran report ∧
      match query.treeToCqp.outcome with
      | .ok cqp => report.code = 0 ∧ report.output = cqp ++ "\n" ∧ report.errors = ""
      | .error refusal => report.code = 1 ∧ report.output = "" ∧
          report.errors = "error[" ++ refusal.kind ++ "]: " ++ refusal.message
            ++ " (" ++ refusal.uri ++ ")\n" := by
  -- The arguments are read as a translation with default settings.
  have hdeclared : ∀ declared, form.declared? = some declared → IsPlain declared :=
    fun declared h => Or.inl (QueryType.head?_of_ofText (hnames declared h))
  have hoperand : ∀ path, channel.operand? = some path → IsPlain path ∧ path ≠ "" := by
    intro path hpath
    cases channel with
    | file given =>
        obtain ⟨hhead, hread⟩ := hcarries
        cases hpath
        refine ⟨Or.inl hhead, ?_⟩
        rintro rfl
        cases hread
    | input => cases hpath
    | dash =>
        cases hpath
        exact ⟨Or.inr rfl, by decide⟩
  obtain ⟨invocation, hread, hconfig, hformat, hcommand⟩ : ∃ invocation,
      readAll arguments = .ok invocation ∧ invocation.config = none ∧ invocation.format = none ∧
        invocation.command = .translate form.declared? channel.operand? :=
    ⟨_, readAll_commandLines harguments hdeclared hoperand, rfl, rfl, rfl⟩
  -- The environment and the files leave the default configuration.
  have hload : Config.load world.files world.environment none = .ok .default :=
    Config.load_of_isPlain world.files henvironment
  have hrun : run arguments world = .ran (runCommand world .default invocation) := by
    rw [run, hread]
    show Outcome.ran (runInvocation world invocation) = _
    rw [runInvocation, hconfig, hload, hformat]
    rfl
  -- What the command finds is written out, or reported as a line.
  refine ⟨runCommand world .default invocation, hrun, ?_⟩
  have hreport := runCommand_translate world .default hcommand
  rw [outcome_translate .default hnames hcarries hdepth] at hreport
  cases htree : query.treeToCqp.outcome with
  | ok cqp =>
      rw [htree] at hreport
      obtain ⟨hcode, houtput, herrors⟩ := hreport
      refine ⟨hcode, ?_, herrors⟩
      rw [houtput]
      exact join_line cqp
  | error refusal =>
      rw [htree] at hreport
      obtain ⟨hcode, houtput, herrors⟩ := hreport
      refine ⟨hcode, houtput, ?_⟩
      rw [herrors]
      show "error[" ++ refusal.kind ++ "]: " ++ refusal.message
        ++ " (" ++ refusal.uri ++ ")" ++ "\n" = _
      rw [String.append_assoc]
      rfl

/-- A query on a word, whose quote the text of its corpus query leaves as it is. -/
def wordQuery : Query :=
  .fcs (.segment (.once (.simple (.of "word" .equals "d\"or"))))

/-- A run in a directory whose only file is the tree of the query. -/
def wordWorld : World :=
  ⟨⟨none, none, none, true, none, none⟩,
    ⟨[("/query.json", .file (some wordQuery.treeToJson.compact))], "", []⟩, some ""⟩

theorem run_refines_toCqp_wordQuery :
    ∃ report, run ["translate", "query.json", "--query-type", " FCS"] wordWorld = .ran report ∧
      report.code = 0 ∧ report.output = "[word = 'd\"or'] \n" ∧ report.errors = "" := by
  have hcarries : (Channel.file "query.json").Carries wordWorld wordQuery.treeToJson.compact :=
    ⟨by decide, by decide +kernel⟩
  have hnames : (Form.bare " FCS").Names wordQuery.type := by
    rintro declared ⟨rfl⟩
    decide +kernel
  obtain ⟨report, hrun, hreport⟩ := run_refines_toCqp wordQuery (.bare " FCS")
    (.file "query.json") ["translate", "query.json", "--query-type", " FCS"] wordWorld
    (by decide) hnames hcarries ⟨rfl, rfl, rfl, rfl⟩ (by decide)
  have hcqp : wordQuery.treeToCqp.outcome = .ok "[word = 'd\"or'] " := by decide +kernel
  rw [hcqp] at hreport
  exact ⟨report, hrun, hreport⟩

end Cli

end CorpusQuery
