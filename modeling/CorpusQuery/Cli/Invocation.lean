/-
  CorpusQuery.Cli.Invocation

  What a list of arguments can come to: a command with its settings, or a
  reason to stop before any command. The settings of a command are collected
  one switch at a time, and no switch may be repeated.
-/
import CorpusQuery.Cli.Switch
import CorpusQuery.Config.Basic

namespace CorpusQuery.Cli

/-! ## Results of reading -/

/-- What is wrong with the arguments. -/
inductive UsageError where
  | unknownSwitch (argument : String)
  | unexpectedValue (switch : Switch)
  | missingValue (switch : Switch)
  | invalidValue (switch : Switch) (value : String)
  | repeated (switch : Switch)
  | unexpectedArgument (argument : String)
  | emptyOperand
  | missingOperand
  | missingCommand
  | unknownCommand (name : String)
  deriving DecidableEq, Repr

/-- Why reading ends before a command is known. -/
inductive Stop where
  /-- the arguments are wrong -/
  | usage (error : UsageError)
  /-- help on a command is asked for -/
  | help (context : Option Context)
  /-- the version is asked for -/
  | version
  deriving DecidableEq, Repr

/-- What to do. -/
inductive Command where
  | translate (queryType : Option String) (input : Option String)
  | tagToSuc (tag : String)
  | tagToUd (tag : String)
  | configShow (json : Bool)
  | configInit (path : Option String) (force : Bool)
  deriving DecidableEq, Repr

/-- A command with the switches that stand anywhere. -/
structure Invocation where
  logLevel : Option Log.Level
  verbose : Bool
  config : Option String
  format : Option OutputFormat
  command : Command
  deriving DecidableEq, Repr

/-! ## Settings -/

/-- What the arguments of a command have set. -/
structure Settings where
  logLevel : Option Log.Level
  verbose : Bool
  config : Option String
  format : Option OutputFormat
  queryType : Option String
  json : Bool
  force : Bool
  operand : Option String
  deriving DecidableEq, Repr

namespace Settings

/-- Nothing is set. -/
def empty : Settings :=
  ⟨none, false, none, none, none, false, false, none⟩

/-- The switch was met. -/
def has (settings : Settings) : Switch → Bool
  | .logLevel => settings.logLevel.isSome
  | .verbose => settings.verbose
  | .config => settings.config.isSome
  | .format => settings.format.isSome
  | .queryType => settings.queryType.isSome
  | .json => settings.json
  | .force => settings.force
  | .help => false
  | .version => false

/-- Takes over a switch that has no value. -/
def flag (settings : Settings) (switch : Switch) : Except Stop Settings :=
  if settings.has switch then .error (.usage (.repeated switch))
  else
    match switch with
    | .verbose => .ok { settings with verbose := true }
    | .json => .ok { settings with json := true }
    | .force => .ok { settings with force := true }
    | _ => .ok settings

/-- Takes over a switch with its value: words are exact, and a path may not be empty. -/
def value (settings : Settings) (switch : Switch) (value : String) : Except Stop Settings :=
  let invalid := Except.error (Stop.usage (.invalidValue switch value))
  if settings.has switch then .error (.usage (.repeated switch))
  else
    match switch with
    | .logLevel =>
      match Log.Level.ofWord? value with
      | some level => .ok { settings with logLevel := some level }
      | none => invalid
    | .format =>
      match OutputFormat.ofWord? value with
      | some format => .ok { settings with format := some format }
      | none => invalid
    | .config => if value = "" then invalid else .ok { settings with config := some value }
    | .queryType => .ok { settings with queryType := some value }
    | _ => .ok settings

/-- The settings of a command over those of the command above it. -/
def under (outer inner : Settings) : Settings :=
  { inner with
    logLevel := inner.logLevel <|> outer.logLevel
    verbose := inner.verbose || outer.verbose
    config := inner.config <|> outer.config
    format := inner.format <|> outer.format }

end Settings

end CorpusQuery.Cli
