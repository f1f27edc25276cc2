/-
  CorpusQuery.Log.Event

  The events that a run reports: their severity, the part of the tool that they
  come from, the values shown with them, and the log line of each. The time and
  the target that the log puts into a line as well are left out of it, and so is
  the escaping of control sequences in it.
-/
import CorpusQuery.Cql.Basic
import CorpusQuery.Log.Level
import CorpusQuery.Log.Shown

namespace CorpusQuery.Log

/-! ## Targets -/

/-- The part of the tool that an event comes from. -/
inductive Target where
  /-- the tool itself -/
  | tool
  /-- the command that translates a query -/
  | translateCommand
  /-- the command that looks a tag up -/
  | tagCommand
  /-- the choice of a translator -/
  | request
  /-- the translator of CQL -/
  | cql
  /-- the translator of FCS-QL -/
  | fcs
  deriving DecidableEq, Repr

/-- The name of a target, of which filters give a beginning. -/
def Target.path : Target → String
  | .tool => "korp_fcs"
  | .translateCommand => "korp_fcs_cli::commands::translate"
  | .tagCommand => "korp_fcs_cli::commands::tag"
  | .request => "korp_fcs_query::facade"
  | .cql => "korp_fcs_query::translate::cql"
  | .fcs => "korp_fcs_query::translate::fcs"

/-! ## Events -/

/-- What happened. -/
inductive Event where
  /-- the command line tool has its configuration -/
  | configurationLoaded (config : Config)
  /-- a query of the declared type was read -/
  | queryRead (declared : String)
  /-- a CQL query is taken up -/
  | cqlBegun (query : Cql.Node)
  /-- the term of a search clause holds no word -/
  | emptyTerm
  /-- a CQL query has its corpus query -/
  | cqlDone (cqp : String)
  /-- an FCS-QL query is taken up -/
  | fcsBegun (query : Fcs.Node)
  /-- a child of a sequence is no segment and adds nothing -/
  | skippedChild (kind : Fcs.NodeKind)
  /-- a segment has its token pattern -/
  | segmentDone (segment : String)
  /-- an FCS-QL query has its corpus query -/
  | fcsDone (cqp : String)
  /-- the declared type is not that of the query -/
  | typeMismatch (declared parsed : QueryType)
  /-- the query has its corpus query -/
  | queryDone (cqp : String)
  /-- a tag has its candidates -/
  | mappedTag (tag : String) (candidates : List String)
  deriving Repr

/-- A named value of an event; some are shown between quotes. -/
structure Field where
  name : String
  value : String
  quoted : Bool
  deriving DecidableEq, Repr

namespace Event

/-- The severity of an event. -/
def severity : Event → Severity
  | .configurationLoaded _ => .debug
  | .queryRead _ => .info
  | .cqlBegun _ => .debug
  | .emptyTerm => .warn
  | .cqlDone _ => .debug
  | .fcsBegun _ => .debug
  | .skippedChild _ => .warn
  | .segmentDone _ => .trace
  | .fcsDone _ => .debug
  | .typeMismatch _ _ => .warn
  | .queryDone _ => .debug
  | .mappedTag _ _ => .debug

/-- Where an event comes from. -/
def target : Event → Target
  | .configurationLoaded _ => .tool
  | .queryRead _ => .translateCommand
  | .cqlBegun _ => .cql
  | .emptyTerm => .cql
  | .cqlDone _ => .cql
  | .fcsBegun _ => .fcs
  | .skippedChild _ => .fcs
  | .segmentDone _ => .fcs
  | .fcsDone _ => .fcs
  | .typeMismatch _ _ => .request
  | .queryDone _ => .translateCommand
  | .mappedTag _ _ => .tagCommand

/-- The event in words. -/
def message : Event → String
  | .configurationLoaded _ => "configuration loaded"
  | .queryRead _ => "translating query"
  | .cqlBegun _ => "translating CQL query"
  | .emptyTerm => "CQL search clause has an empty term"
  | .cqlDone _ => "translated CQL query"
  | .fcsBegun _ => "translating FCS-QL query"
  | .skippedChild _ => "skipping non-segment sequence child"
  | .segmentDone _ => "translated segment"
  | .fcsDone _ => "translated FCS-QL query"
  | .typeMismatch _ _ => "query type does not match parsed tree"
  | .queryDone _ => "translation finished"
  | .mappedTag _ _ => "mapped part-of-speech tag"

/-- The values shown with an event. -/
def fields : Event → List Field
  | .configurationLoaded config => [⟨"config", config.shown, false⟩]
  | .queryRead declared => [⟨"query_type", declared, false⟩]
  | .cqlBegun query => [⟨"query", query.display, false⟩]
  | .emptyTerm => []
  | .cqlDone cqp => [⟨"cqp", cqp, false⟩]
  | .fcsBegun query => [⟨"query", query.shown, false⟩]
  | .skippedChild kind => [⟨"node", kind.word, true⟩]
  | .segmentDone segment => [⟨"segment", segment, false⟩]
  | .fcsDone cqp => [⟨"cqp", cqp, false⟩]
  | .typeMismatch declared parsed =>
    [⟨"declared", declared.word, false⟩, ⟨"parsed", parsed.word, false⟩]
  | .queryDone cqp => [⟨"cqp", cqp, false⟩]
  | .mappedTag tag candidates =>
    [⟨"tag", tag, false⟩, ⟨"candidates", Shown.list (candidates.map Text.quote), false⟩]

/-- The event is a warning. -/
def isWarning (event : Event) : Bool :=
  event.severity = .warn

end Event

/-! ## Lines -/

/-- A field as it stands in a log line. -/
def Field.text (field : Field) : String :=
  field.name ++ "=" ++ if field.quoted then Text.quote field.value else field.value

/-- The log line of an event. -/
def Event.line (event : Event) : String :=
  String.intercalate " " (event.severity.label :: event.message :: event.fields.map Field.text)

end CorpusQuery.Log
