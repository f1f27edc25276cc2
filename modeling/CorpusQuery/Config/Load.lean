/-
  CorpusQuery.Config.Load

  Finding and loading the configuration: the file in use gives one layer, the
  variables of the environment another that goes before it.
-/
import CorpusQuery.Config.File
import CorpusQuery.Diagnostic
import CorpusQuery.FileSystem

namespace CorpusQuery

/-- What a run takes from its environment. -/
structure Environment where
  /-- the log level -/
  logLevel : Option String
  /-- the query type of bare trees -/
  queryType : Option String
  /-- the output format -/
  outputFormat : Option String
  /-- the default configuration file is to be passed over -/
  testMode : Bool
  /-- the filter of log events -/
  logFilter : Option String
  /-- the directory of configurations -/
  configHome : Option String
  deriving Repr

/-- The path of the default configuration file. -/
def Environment.configPath? (environment : Environment) : Option String :=
  environment.configHome.map fun home => Path.join (Path.join home "korp-fcs") "config.toml"

namespace Config

/-! ## Errors -/

/-- Why no configuration can be loaded. -/
inductive LoadError where
  /-- there is no file at the path given -/
  | notFound (path : String)
  /-- the file has no text -/
  | unreadable (path : String)
  /-- the text is no configuration -/
  | malformed (path : String)
  /-- a variable holds no log level -/
  | invalidLevel (value : String)
  /-- a variable holds no query type -/
  | invalidType (value : String) (error : Refusal)
  /-- a variable holds no output format -/
  | invalidFormat (value : String)
  deriving DecidableEq, Repr

/-- What went wrong, without the cause. -/
def LoadError.context : LoadError → String
  | .notFound path => "Config file not found: " ++ path
  | .unreadable path => "Failed to read config file: " ++ path
  | .malformed path => "Failed to parse config file: " ++ path
  | .invalidLevel value => "Invalid KORP_FCS_LOG_LEVEL: " ++ value
  | .invalidType value _ => "Invalid KORP_FCS_QUERY_TYPE: " ++ value
  | .invalidFormat value => "Invalid KORP_FCS_OUTPUT_FORMAT: " ++ value

/-! ## The file -/

/-- The path of the file in use: the one given, which has to exist, or else the default file if it
exists and is not to be passed over. -/
def fileInUse (files : FileSystem) (environment : Environment) (given : Option String) :
    Except LoadError (Option String) :=
  match given with
  | some path => if files.exists? path then .ok (some path) else .error (.notFound path)
  | none =>
    if environment.testMode then .ok none
    else .ok (environment.configPath?.filter files.exists?)

/-- The layer of the file at a path. -/
def Layer.ofFile (files : FileSystem) (path : String) : Except LoadError Layer :=
  match files.readText? path with
  | none => .error (.unreadable path)
  | some text =>
    match Layer.ofText? text with
    | some layer => .ok layer
    | none => .error (.malformed path)

/-- The layer of the file in use; without one nothing is given. -/
def fileLayer (files : FileSystem) (environment : Environment) (given : Option String) :
    Except LoadError Layer := do
  match ← fileInUse files environment given with
  | some path => Layer.ofFile files path
  | none => return .empty

/-! ## The environment -/

/-- The word up to the case of ASCII letters. -/
def foldAscii (word : String) : List Char :=
  word.toList.map Char.toLower

/-- The log level named by a word in any case. -/
def levelIgnoringCase? (word : String) : Option Log.Level :=
  Log.Level.all.find? fun level => foldAscii level.word = foldAscii word

/-- The output format named by a word in any case. -/
def formatIgnoringCase? (word : String) : Option OutputFormat :=
  OutputFormat.all.find? fun format => foldAscii format.word = foldAscii word

/-- The log level that the environment gives. -/
def environmentLevel (environment : Environment) : Except LoadError (Option Log.Level) :=
  match environment.logLevel with
  | none => .ok none
  | some word =>
    match levelIgnoringCase? word with
    | some level => .ok (some level)
    | none => .error (.invalidLevel word)

/-- The query type that the environment gives. -/
def environmentType (environment : Environment) : Except LoadError (Option QueryType) :=
  match environment.queryType with
  | none => .ok none
  | some text =>
    match QueryType.ofText text with
    | .ok type => .ok (some type)
    | .error error => .error (.invalidType text error)

/-- The output format that the environment gives. -/
def environmentFormat (environment : Environment) : Except LoadError (Option OutputFormat) :=
  match environment.outputFormat with
  | none => .ok none
  | some word =>
    match formatIgnoringCase? word with
    | some format => .ok (some format)
    | none => .error (.invalidFormat word)

/-- The layer of the environment: log level, query type and format are looked at in this order. -/
def environmentLayer (environment : Environment) : Except LoadError Layer := do
  let logLevel ← environmentLevel environment
  let defaultType ← environmentType environment
  let format ← environmentFormat environment
  return ⟨logLevel, format, none, defaultType⟩

/-! ## Loading -/

/-- Loads the configuration. The file is looked at before the environment, whose settings go before
those of the file. -/
def load (files : FileSystem) (environment : Environment) (given : Option String) :
    Except LoadError Config := do
  let file ← fileLayer files environment given
  let layer ← environmentLayer environment
  return (default.overlay file).overlay layer

/-- The configuration of a file by itself. -/
def ofFile (files : FileSystem) (path : String) : Except LoadError Config :=
  (Layer.ofFile files path).map default.overlay

/-! ## The example file -/

/-- Why the example file cannot be written. -/
inductive InitError where
  | alreadyExists (path : String)
  | noDirectory
  | notWritten
  deriving DecidableEq, Repr

/-- What went wrong, without the cause. -/
def InitError.context : InitError → String
  | .alreadyExists path => "Config file already exists: " ++ path ++ " (use --force to overwrite)"
  | .noDirectory => "Failed to create config directory"
  | .notWritten => "Failed to write config file"

/-- Writes the example file, and the directories it needs. An existing file is only replaced if
`force` says so. Gives the files afterwards, also after a failure. -/
def writeExample (files : FileSystem) (path : String) (force : Bool) :
    FileSystem × Except InitError Unit :=
  if files.exists? path && !force then (files, .error (.alreadyExists path))
  else
    match files.createParents path with
    | (files, false) => (files, .error .noDirectory)
    | (files, true) =>
      match files.write? path exampleText with
      | some files => (files, .ok ())
      | none => (files, .error .notWritten)

end Config

end CorpusQuery
