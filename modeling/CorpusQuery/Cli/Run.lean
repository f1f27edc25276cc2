/-
  CorpusQuery.Cli.Run

  A run of the command line tool as a function: from arguments, environment,
  files and standard input to the exit code, the texts written, the log lines
  and the files afterwards.
-/
import CorpusQuery.Cli.Arguments
import CorpusQuery.Cli.Failure
import CorpusQuery.Cli.LogFilter

namespace CorpusQuery.Cli

/-! ## Inputs and outcomes -/

/-- What a run starts from. Standard input that is no text is `none`. -/
structure World where
  environment : Environment
  files : FileSystem
  input : Option String
  deriving Repr

/-- What a finished run leaves: the exit code, what it wrote, the events it reported, the log lines
shown of them, and the files. -/
structure Report where
  code : Nat
  output : String
  errors : String
  events : List Log.Event
  logLines : List String
  files : FileSystem
  deriving Repr

/-- How a run ends. -/
inductive Outcome where
  /-- the arguments ended it -/
  | stopped (stop : Stop)
  | ran (report : Report)
  deriving Repr

/-! ## Results -/

/-- What a command has to write: lines of text and the same as a JSON value. -/
structure Result where
  lines : List String
  value : Json
  deriving Repr

/-- A text with a line end. -/
def line (text : String) : String :=
  text ++ "\n"

/-- A result as it is written under a configuration; members of JSON objects are in order. -/
def Result.render (config : Config) (result : Result) : String :=
  match config.format with
  | .text => String.join (result.lines.map line)
  | .json =>
    let value := result.value.canonical
    line (if config.pretty then value.pretty else value.compact)

/-! ## Places that count -/

/-- The path means standard input: it is a single dash, perhaps with slashes after it. -/
def isStandardInput (path : String) : Bool :=
  !Path.isAbsolute path && Path.components path = ["-"]

/-- The command reads standard input. -/
def Command.readsInput : Command → Bool
  | .translate _ path => (path.filter fun path => !isStandardInput path).isNone
  | _ => false

/-- The paths that a run may look at or write to. -/
def Invocation.paths (invocation : Invocation) (environment : Environment) : List String :=
  let named := match invocation.command with
    | .translate _ path => path.toList
    | .configInit path _ => path.toList
    | _ => []
  environment.configPath?.toList ++ invocation.config.toList ++ named

/-! ## Commands -/

/-- Reads the text of a query from a file, or from standard input if no file is named. -/
def readQuery (world : World) (path : Option String) : Except Failure String :=
  match path.filter fun path => !isStandardInput path with
  | some path =>
    match world.files.readText? path with
    | some text => .ok text
    | none => .error (.unreadableFile path)
  | none =>
    match world.input with
    | some text => .ok text
    | none => .error .unreadableInput

/-- The declared type and the query of a text. -/
def queryOfText (given : Option String) (defaultType : QueryType) (text : String) :
    Except Failure (String × Query) :=
  match Json.parse text with
  | none => .error .invalidJson
  | some value => (Query.ofInput given defaultType value).mapError .input

/-- Finds the corpus query for a query. -/
def translate (world : World) (config : Config) (given path : Option String) :
    Logged Failure Result := do
  let text ← Logged.ofExcept (readQuery world path)
  let (declared, query) ← Logged.ofExcept (queryOfText given config.defaultType text)
  Logged.report (.queryRead declared)
  let cqp ← (query.toCqp declared).mapError Failure.refused
  Logged.report (.queryDone cqp)
  return ⟨[cqp], .obj [("query_type", .str query.type.word), ("cqp", .str cqp)]⟩

/-- Looks up the candidates of a tag. -/
def lookUpTag (tag : String) (candidates : Except Refusal (List String)) :
    Logged Failure Result := do
  let names ← (Logged.ofExcept candidates).mapError Failure.refused
  Logged.report (.mappedTag tag names)
  return ⟨names, .obj [("tag", .str tag), ("candidates", .arr (names.map .str))]⟩

/-- The text that shows a configuration. -/
def showConfig (config : Config) (json : Bool) : String :=
  if json then config.toJson.pretty
  else String.ofList (Text.trimEnd config.toToml.toList)

/-- Writes the example file to a path, or to the default path. -/
def initConfig (world : World) (path : Option String) (force : Bool) :
    FileSystem × Except Failure String :=
  match path <|> world.environment.configPath? with
  | none => (world.files, .error .noConfigHome)
  | some path =>
    match Config.writeExample world.files path force with
    | (files, .ok ()) => (files, .ok ("Wrote example configuration to " ++ path))
    | (files, .error error) => (files, .error (.init error))

/-- Runs a command: the files afterwards, and what to write or why it failed. -/
def perform (world : World) (config : Config) (command : Command) :
    FileSystem × Logged Failure String :=
  let rendered := fun (result : Logged Failure Result) =>
    (world.files, result.andThen fun result => .ok (result.render config))
  match command with
  | .translate given path => rendered (translate world config given path)
  | .tagToSuc tag =>
    rendered (lookUpTag tag ((PartOfSpeech.sucCandidates tag).map (·.map SucTag.name)))
  | .tagToUd tag =>
    rendered (lookUpTag tag ((PartOfSpeech.udCandidates tag).map (·.map UdTag.name)))
  | .configShow json => (world.files, .ok (line (showConfig config json)))
  | .configInit path force =>
    let (files, outcome) := initConfig world path force
    (files, .ofExcept (outcome.map line))

/-! ## Runs -/

/-- Runs a command under a configuration. -/
def runCommand (world : World) (config : Config) (invocation : Invocation) : Report :=
  let filter := logFilter world.environment
    (config.levelInEffect invocation.logLevel invocation.verbose)
  let (files, computation) := perform world config invocation.command
  let events := .configurationLoaded config :: computation.events
  let logLines := filter.lines events
  match computation.outcome with
  | .ok output => ⟨0, output, "", events, logLines, files⟩
  | .error failure => ⟨1, "", line (failure.line config.format), events, logLines, files⟩

/-- Loads the configuration and runs a command. A failure to load is reported in the format that the
arguments give, and nothing is logged. -/
def runInvocation (world : World) (invocation : Invocation) : Report :=
  match Config.load world.files world.environment invocation.config with
  | .ok config =>
    runCommand world { config with format := invocation.format.getD config.format } invocation
  | .error error =>
    ⟨1, "", line ((Failure.load error).line (invocation.format.getD .text)), [], [], world.files⟩

/-- The name and the version of the tool. -/
def versionText : String := "korp-fcs 0.1.0"

/-- Runs the tool. -/
def run (arguments : List String) (world : World) : Outcome :=
  match readAll arguments with
  | .ok invocation => .ran (runInvocation world invocation)
  | .error stop => .stopped stop

/-- The files after a run. -/
def Outcome.files (world : World) : Outcome → FileSystem
  | .stopped _ => world.files
  | .ran report => report.files

end CorpusQuery.Cli
