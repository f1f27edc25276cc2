/-
  CorpusQuery.Cli.Failure

  Why a command fails, and the line that reports it: a refusal by its diagnostic,
  any other failure in words. What a reader of JSON or TOML or the system says
  of the cause is left out.
-/
import CorpusQuery.Config.Load
import CorpusQuery.Query.Input

namespace CorpusQuery.Cli

/-- Why a command fails. -/
inductive Failure where
  | refused (refusal : Refusal)
  | load (error : Config.LoadError)
  | unreadableInput
  | unreadableFile (path : String)
  | invalidJson
  | input (error : Query.InputError)
  | init (error : Config.InitError)
  | noConfigHome
  deriving DecidableEq, Repr

/-- The refusal behind a failure, if there is one. -/
def Failure.refusal? : Failure → Option Refusal
  | .refused refusal => some refusal
  | .load (.invalidType _ error) => some error
  | .input (.unknownType error) => some error
  | _ => none

/-- A failure in words, with its cause where that is a matter of words. -/
def Failure.text : Failure → String
  | .refused refusal => refusal.message
  | .load (.invalidLevel value) =>
    (Config.LoadError.invalidLevel value).context ++ ": invalid variant: " ++ value
  | .load (.invalidFormat value) =>
    (Config.LoadError.invalidFormat value).context ++ ": invalid variant: " ++ value
  | .load error => error.context
  | .unreadableInput => "Failed to read query from stdin"
  | .unreadableFile path => "Failed to read query file: " ++ path
  | .invalidJson => "Input is not valid JSON"
  | .input error => error.message
  | .init error => error.context
  | .noConfigHome => "Could not determine config directory"

/-- The line that reports a refusal: its diagnostic as JSON, or a text. -/
def errorLine (format : OutputFormat) (error : Refusal) : String :=
  match format with
  | .json => error.diagnostic.toJson.compact
  | .text => "error[" ++ error.kind ++ "]: " ++ error.message ++ " (" ++ error.uri ++ ")"

/-- The line that reports a failure. -/
def Failure.line (format : OutputFormat) (failure : Failure) : String :=
  match failure.refusal? with
  | some error => errorLine format error
  | none => "Error: " ++ failure.text

end CorpusQuery.Cli
