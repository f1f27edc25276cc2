/-
  CorpusQuery.Cli.Help

  The texts for people: help on the commands, and what to say of arguments that
  are wrong.
-/
import CorpusQuery.Cli.Invocation

namespace CorpusQuery.Cli

/-- The words that call a command. -/
def Context.call : Context → String
  | .root => "korp-fcs"
  | .translate => "korp-fcs translate"
  | .tag => "korp-fcs tag"
  | .tagToSuc => "korp-fcs tag to-suc"
  | .tagToUd => "korp-fcs tag to-ud"
  | .config => "korp-fcs config"
  | .configShow => "korp-fcs config show"
  | .configInit => "korp-fcs config init"

/-- What a command does. -/
def Context.about : Context → String
  | .root => "korp-fcs - translate parsed CQL / FCS-QL queries to Korp CQP"
  | .translate => "Translate a parsed query tree (JSON) to CQP"
  | .tag => "Map part-of-speech tags between UD-17 and SUC"
  | .tagToSuc => "UD-17 tag to SUC candidates"
  | .tagToUd => "SUC tag (attributes after '.' are ignored) to UD-17 candidates"
  | .config => "Inspect or create the configuration file"
  | .configShow => "Show the effective configuration"
  | .configInit => "Write an example configuration file"

/-- What may follow the words that call a command. -/
def Context.operands : Context → String
  | .root => " <COMMAND>"
  | .translate => " [OPTIONS] [INPUT]"
  | .tag => " <COMMAND>"
  | .tagToSuc => " [OPTIONS] <TAG>"
  | .tagToUd => " [OPTIONS] <TAG>"
  | .config => " <COMMAND>"
  | .configShow => " [OPTIONS]"
  | .configInit => " [OPTIONS] [PATH]"

/-- The commands below a command, with the words that name them. -/
def Context.commands : Context → List (String × Context)
  | .root => [("translate", .translate), ("tag", .tag), ("config", .config)]
  | .tag => [("to-suc", .tagToSuc), ("to-ud", .tagToUd)]
  | .config => [("show", .configShow), ("init", .configInit)]
  | _ => []

/-- What a switch does. -/
def Switch.about : Switch → String
  | .logLevel => "Set log level (off, error, warn, info, debug, trace)"
  | .verbose => "Enable verbose logging (shortcut for --log-level=debug)"
  | .config => "Config file path (defaults to ~/.config/korp-fcs/config.toml)"
  | .format => "Output format: text or json (overrides config file)"
  | .queryType => "SRU query type of the tree: cql or fcs (defaults to config value)"
  | .json => "Print as JSON instead of TOML"
  | .force => "Overwrite an existing file"
  | .help => "Print help"
  | .version => "Print version"

/-- A switch as it is written. -/
def Switch.spelling (switch : Switch) : String :=
  (match switch.letter? with
    | some letter => "-" ++ String.ofList [letter] ++ ", "
    | none => "    ")
    ++ "--" ++ switch.long ++ if switch.takesValue then " <VALUE>" else ""

/-- The line that says how a command is called. -/
def Context.usage (context : Context) : String :=
  "Usage: " ++ context.call ++ context.operands

/-- Help on a command; without one, on help itself. -/
def helpText : Option Context → String
  | none => "Print help on a command\n\nUsage: korp-fcs help [COMMAND]...\n"
  | some context =>
    let commands := context.commands.map fun (name, command) =>
      "  " ++ name ++ ": " ++ command.about ++ "\n"
    let switches := (Switch.all.filter fun switch => switch.allowedIn context).map fun switch =>
      "  " ++ switch.spelling ++ ": " ++ switch.about ++ "\n"
    context.about ++ "\n\n" ++ context.usage ++ "\n"
      ++ (if commands.isEmpty then "" else "\nCommands:\n" ++ String.join commands)
      ++ "\nOptions:\n" ++ String.join switches

/-- What is wrong with the arguments, in words. -/
def UsageError.message : UsageError → String
  | .unknownSwitch argument => "unexpected argument '" ++ argument ++ "' found"
  | .unexpectedValue switch => "unexpected value for '--" ++ switch.long ++ "' found"
  | .missingValue switch =>
    "a value is required for '--" ++ switch.long ++ "' but none was supplied"
  | .invalidValue switch value =>
    "invalid value '" ++ value ++ "' for '--" ++ switch.long ++ "'"
  | .repeated switch => "the argument '--" ++ switch.long ++ "' cannot be used multiple times"
  | .unexpectedArgument argument => "unexpected argument '" ++ argument ++ "' found"
  | .emptyOperand => "a value is required for the path but none was supplied"
  | .missingOperand => "a required argument was not provided"
  | .missingCommand => "a command is required but none was provided"
  | .unknownCommand name => "unrecognized command '" ++ name ++ "'"

end CorpusQuery.Cli
