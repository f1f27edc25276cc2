/-
  CorpusQuery.Config.Basic

  The configuration of the command line tool, and the layers it is made of: a
  layer gives some of the settings, and a later layer goes before an earlier
  one setting by setting.
-/
import CorpusQuery.Log.Level
import CorpusQuery.QueryType

namespace CorpusQuery

/-! ## Settings -/

/-- How results are written: plain lines, or JSON. -/
inductive OutputFormat where
  | text
  | json
  deriving DecidableEq, Repr

namespace OutputFormat

/-- The word for the format. -/
def word : OutputFormat → String
  | .text => "text"
  | .json => "json"

/-- All formats. -/
def all : List OutputFormat :=
  [.text, .json]

/-- The format named by a word, exactly as it is written. -/
def ofWord? (word : String) : Option OutputFormat :=
  all.find? fun format => format.word = word

theorem ofWord?_word (format : OutputFormat) : ofWord? format.word = some format := by
  cases format <;> rfl

end OutputFormat

/-- A configuration. Without a log level the tool has its own. -/
structure Config where
  logLevel : Option Log.Level
  format : OutputFormat
  pretty : Bool
  defaultType : QueryType
  deriving DecidableEq, Repr

/-- The settings that one source gives. -/
structure Config.Layer where
  logLevel : Option Log.Level
  format : Option OutputFormat
  pretty : Option Bool
  defaultType : Option QueryType
  deriving DecidableEq, Repr

namespace Config

/-- The configuration where no source gives anything. -/
def default : Config :=
  ⟨none, .text, false, .fcs⟩

/-- A layer that gives nothing. -/
def Layer.empty : Layer :=
  ⟨none, none, none, none⟩

/-- The configuration with the settings of a layer in place of its own. -/
def overlay (config : Config) (layer : Layer) : Config where
  logLevel := layer.logLevel <|> config.logLevel
  format := layer.format.getD config.format
  pretty := layer.pretty.getD config.pretty
  defaultType := layer.defaultType.getD config.defaultType

theorem overlay_empty (config : Config) : config.overlay .empty = config := by
  cases config with
  | mk logLevel format pretty defaultType => cases logLevel <;> rfl

/-- The log level in effect: that of the command line, then `debug` if it asks for more, then that
of the configuration, then `warn`. -/
def levelInEffect (config : Config) (given : Option Log.Level) (verbose : Bool) : Log.Level :=
  match given with
  | some level => level
  | none => if verbose then .debug else config.logLevel.getD .warn

end Config

end CorpusQuery
