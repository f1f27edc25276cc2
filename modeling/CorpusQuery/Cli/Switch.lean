/-
  CorpusQuery.Cli.Switch

  The commands of the command line tool as a tree of places, and the switches
  that each place takes.
-/

namespace CorpusQuery.Cli

/-! ## Commands and switches -/

/-- The places in the tree of commands. -/
inductive Context where
  | root
  | translate
  | tag
  | tagToSuc
  | tagToUd
  | config
  | configShow
  | configInit
  deriving DecidableEq, Repr

namespace Context

/-- The command that a word names below a command. -/
def command? : Context → String → Option Context
  | .root, "translate" => some .translate
  | .root, "tag" => some .tag
  | .root, "config" => some .config
  | .tag, "to-suc" => some .tagToSuc
  | .tag, "to-ud" => some .tagToUd
  | .config, "show" => some .configShow
  | .config, "init" => some .configInit
  | _, _ => none

/-- The command has commands below it, of which one has to be named. -/
def isGroup : Context → Bool
  | .root => true
  | .tag => true
  | .config => true
  | _ => false

/-- The command takes an operand. -/
def takesOperand : Context → Bool
  | .translate => true
  | .tagToSuc => true
  | .tagToUd => true
  | .configInit => true
  | _ => false

/-- The operand is a path, which may not be empty. -/
def operandIsPath : Context → Bool
  | .translate => true
  | .configInit => true
  | _ => false

end Context

/-- The switches. -/
inductive Switch where
  | logLevel
  | verbose
  | config
  | format
  | queryType
  | json
  | force
  | help
  | version
  deriving DecidableEq, Repr

namespace Switch

/-- All switches. -/
def all : List Switch :=
  [.logLevel, .verbose, .config, .format, .queryType, .json, .force, .help, .version]

/-- The long name of a switch. -/
def long : Switch → String
  | .logLevel => "log-level"
  | .verbose => "verbose"
  | .config => "config"
  | .format => "format"
  | .queryType => "query-type"
  | .json => "json"
  | .force => "force"
  | .help => "help"
  | .version => "version"

/-- The letter of a switch. -/
def letter? : Switch → Option Char
  | .logLevel => some 'l'
  | .verbose => some 'v'
  | .config => some 'C'
  | .format => some 'f'
  | .queryType => some 't'
  | .json => none
  | .force => none
  | .help => some 'h'
  | .version => some 'V'

/-- The switch takes a value. -/
def takesValue : Switch → Bool
  | .logLevel => true
  | .config => true
  | .format => true
  | .queryType => true
  | _ => false

/-- The switch may stand with a command. Some may stand anywhere. -/
def allowedIn : Switch → Context → Bool
  | .queryType, context => context = .translate
  | .json, context => context = .configShow
  | .force, context => context = .configInit
  | .version, context => context = .root
  | _, _ => true

/-- The switch with a long name. -/
def ofLong? (context : Context) (name : String) : Option Switch :=
  all.find? fun switch => switch.allowedIn context && switch.long = name

/-- The switch with a letter. -/
def ofLetter? (context : Context) (letter : Char) : Option Switch :=
  all.find? fun switch => switch.allowedIn context && switch.letter? = some letter

end Switch

end CorpusQuery.Cli
