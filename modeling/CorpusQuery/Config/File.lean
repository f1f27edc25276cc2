/-
  CorpusQuery.Config.File

  Configurations as TOML files: reading a layer, writing a configuration as
  TOML or JSON, and the example file.
-/
import CorpusQuery.Config.Basic
import CorpusQuery.Json.Printer
import CorpusQuery.Toml.Reader

namespace CorpusQuery.Config

open Toml (Value)

/-! ## Reading -/

/-- The word that a value gives: a text, or the one key of a table that holds nothing else. -/
def wordOf? : Value → Option String
  | .str word => some word
  | .table [(word, .table [])] => some word
  | .table [(word, .arr [])] => some word
  | _ => none

/-- A truth value. -/
def truthOf? : Value → Option Bool
  | .bool value => some value
  | _ => none

/-- The entries of a section: a table, or an array that gives values to the names in their
order. A time says nothing about any name. -/
def sectionOf? (names : List String) : Value → Option (List (String × Value))
  | .table entries => some entries
  | .arr items => some (names.zip items)
  | .time _ => some []
  | _ => none

/-- The setting called `name`, if it is given; `none` overall if it is given wrongly. -/
def setting? {α : Type} (read : Value → Option α) (entries : List (String × Value))
    (name : String) : Option (Option α) :=
  match entries.lookup name with
  | none => some none
  | some value => (read value).map some

/-- The section called `name`; without it no setting is given. -/
def section? (entries : List (String × Value)) (name : String) (names : List String) :
    Option (List (String × Value)) :=
  match entries.lookup name with
  | none => some []
  | some value => sectionOf? names value

/-- The layer that a file gives. Names that mean nothing are passed over; words are exact. -/
def Layer.ofToml? (entries : List (String × Value)) : Option Layer := do
  let logLevel ← setting? (fun value => (wordOf? value).bind Log.Level.ofWord?) entries "log_level"
  let output ← section? entries "output" ["format", "pretty"]
  let format ← setting? (fun value => (wordOf? value).bind OutputFormat.ofWord?) output "format"
  let pretty ← setting? truthOf? output "pretty"
  let query ← section? entries "query" ["default_type"]
  let defaultType ← setting? (fun value => (wordOf? value).bind QueryType.ofWord?) query
    "default_type"
  return ⟨logLevel, format, pretty, defaultType⟩

/-- The layer of a file's text. -/
def Layer.ofText? (text : String) : Option Layer :=
  (Toml.parse text).bind Layer.ofToml?

/-! ## Writing -/

/-- A truth value as it is written. -/
def truthWord (value : Bool) : String :=
  if value then "true" else "false"

/-- The configuration as TOML. -/
def toToml (config : Config) : String :=
  (match config.logLevel with
    | some level => "log_level = \"" ++ level.word ++ "\"\n\n"
    | none => "")
    ++ "[output]\nformat = \"" ++ config.format.word ++ "\"\npretty = " ++ truthWord config.pretty
    ++ "\n\n[query]\ndefault_type = \"" ++ config.defaultType.word ++ "\"\n"

/-- The configuration as a JSON value. -/
def toJson (config : Config) : Json :=
  .obj ((match config.logLevel with
    | some level => [("log_level", .str level.word)]
    | none => [])
    ++ [("output", .obj [("format", .str config.format.word), ("pretty", .bool config.pretty)]),
      ("query", .obj [("default_type", .str config.defaultType.word)])])

/-! ## The example -/

/-- The lines of the example file. -/
def exampleLines : List String :=
  ["# korp-fcs configuration",
   "# Location: ~/.config/korp-fcs/config.toml",
   "",
   "# Log level: off, error, warn, info, debug, trace",
   "log_level = \"warn\"",
   "",
   "[output]",
   "# Result format: text or json",
   "format = \"text\"",
   "# Pretty-print JSON output",
   "pretty = false",
   "",
   "[query]",
   "# Query type of bare trees passed to `korp-fcs translate`: cql or fcs",
   "default_type = \"fcs\""]

/-- The text of the example file. -/
def exampleText : String :=
  String.join (exampleLines.map (· ++ "\n"))

end CorpusQuery.Config
