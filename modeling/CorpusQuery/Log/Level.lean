/-
  CorpusQuery.Log.Level

  Severities of log events and the levels that select events by severity.
-/

namespace CorpusQuery.Log

/-- How severe an event is. -/
inductive Severity where
  | error
  | warn
  | info
  | debug
  | trace
  deriving DecidableEq, Repr

/-- A severity as a number, the most severe lowest. -/
def Severity.rank : Severity → Nat
  | .error => 1
  | .warn => 2
  | .info => 3
  | .debug => 4
  | .trace => 5

/-- A severity as it is written in a log line. -/
def Severity.label : Severity → String
  | .error => "ERROR"
  | .warn => "WARN"
  | .info => "INFO"
  | .debug => "DEBUG"
  | .trace => "TRACE"

/-- A level shows the events of one severity and of all that are more severe; `off` shows none. -/
inductive Level where
  | off
  | error
  | warn
  | info
  | debug
  | trace
  deriving DecidableEq, Repr

namespace Level

/-- A level as a number: the rank of the least severe events it shows. -/
def rank : Level → Nat
  | .off => 0
  | .error => 1
  | .warn => 2
  | .info => 3
  | .debug => 4
  | .trace => 5

/-- The level shows events of the severity. -/
def shows (level : Level) (severity : Severity) : Bool :=
  severity.rank ≤ level.rank

/-- The word for the level. -/
def word : Level → String
  | .off => "off"
  | .error => "error"
  | .warn => "warn"
  | .info => "info"
  | .debug => "debug"
  | .trace => "trace"

/-- All levels, from silence to everything. -/
def all : List Level :=
  [.off, .error, .warn, .info, .debug, .trace]

/-- The level named by a word, exactly as it is written. -/
def ofWord? (word : String) : Option Level :=
  all.find? fun level => level.word = word

theorem ofWord?_word (level : Level) : ofWord? level.word = some level := by
  cases level <;> rfl

end Level

end CorpusQuery.Log
