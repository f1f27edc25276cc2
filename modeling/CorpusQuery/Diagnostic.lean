/-
  CorpusQuery.Diagnostic

  Why the endpoint refuses a query or a tag, and the protocol diagnostic that
  it reports for each cause.
-/
import CorpusQuery.Json.Printer
import CorpusQuery.QueryType

namespace CorpusQuery

/-! ## Causes -/

/-- Why a query or a tag is refused. -/
inductive Refusal where
  /-- a boolean operator of CQL -/
  | unsupportedBooleanOperator (operator : String)
  /-- a shape of query that the endpoint does not support -/
  | queryTooComplex (explanation : String)
  /-- a layer, or a layer qualifier, that the endpoint does not support -/
  | unsupportedExpression
  /-- a node of no known type -/
  | unknownQueryNode (node : String)
  /-- a part-of-speech tag of a query that is in no table -/
  | unknownUdTag (tag : String)
  /-- a part-of-speech tag of the corpus that is in no table -/
  | unknownSucTag (tag : String)
  /-- a query type that is unknown, or not that of the query -/
  | unsupportedQueryType (text : String)
  deriving DecidableEq, Repr

/-- The shapes of FCS-QL queries that are refused as too complex. -/
inductive ShapeLimit where
  /-- the root is neither a sequence nor a segment -/
  | root
  /-- the expression of a segment is a negation or a group -/
  | segment
  /-- a boolean expression has `count` operands instead of two -/
  | operandCount (count : Nat)
  /-- an operand is no simple expression -/
  | operand
  deriving DecidableEq, Repr

/-- What is said of a shape that is refused. -/
def ShapeLimit.explanation : ShapeLimit → String
  | .root => "Endpoint only supports sequences or single segment queries"
  | .segment => "Endpoint only supports sequences or single segment expressions"
  | .operandCount count =>
    "Boolean expression should have exactly two operands, got "
      ++ String.ofList (Nat.toDigits 10 count)
  | .operand => "Endpoint only supports simple expressions as boolean operands"

namespace Refusal

/-- The refusal of a shape. -/
def ofShape (limit : ShapeLimit) : Refusal :=
  .queryTooComplex limit.explanation

/-- The short stable name of the kind of refusal. -/
def kind : Refusal → String
  | .unsupportedBooleanOperator _ => "unsupported_boolean_operator"
  | .queryTooComplex _ => "query_too_complex"
  | .unsupportedExpression => "query_too_complex"
  | .unknownQueryNode _ => "unknown_query_node"
  | .unknownUdTag _ => "unknown_source_tag"
  | .unknownSucTag _ => "unknown_target_tag"
  | .unsupportedQueryType _ => "unsupported_query_type"

/-- The refusal in words. -/
def message : Refusal → String
  | .unsupportedBooleanOperator operator => "Unsupported Boolean operator: " ++ operator
  | .queryTooComplex explanation => explanation
  | .unsupportedExpression =>
    "Endpoint only supports 'text', 'word', 'lemma', and 'pos' layers, "
      ++ "the '=' and '!=' operators and no regex flags"
  | .unknownQueryNode node => "unknown cql node: " ++ node
  | .unknownUdTag tag => "unknown UD-17 PoS code in query: " ++ tag
  | .unknownSucTag tag => "unknown PoS code from search engine: " ++ tag
  | .unsupportedQueryType text =>
    "Queries with queryType '" ++ text ++ "' are not supported by this CLARIN-FCS Endpoint."

end Refusal

/-! ## Diagnostics -/

/-- A diagnostic of the search protocol. -/
structure Diagnostic where
  uri : String
  details : Option String
  message : String
  deriving DecidableEq, Repr

namespace Diagnostic

/-- SRU: the query breaks the syntax. -/
def querySyntaxError : String := "info:srw/diagnostic/1/10"

/-- SRU: the boolean operator is not supported. -/
def unsupportedBooleanOperator : String := "info:srw/diagnostic/1/37"

/-- SRU: the query cannot be processed, for an unknown reason. -/
def cannotProcessQuery : String := "info:srw/diagnostic/1/47"

/-- FCS: the query is too complex. -/
def generalQueryTooComplex : String := "http://clarin.eu/fcs/diagnostic/11"

/-- The diagnostic as a JSON object. -/
def toJson (diagnostic : Diagnostic) : Json :=
  .obj [("uri", .str diagnostic.uri),
    ("details", diagnostic.details.elim .null .str),
    ("message", .str diagnostic.message)]

end Diagnostic

namespace Refusal

/-- The identifier of the diagnostic that reports the refusal. -/
def uri : Refusal → String
  | .unsupportedBooleanOperator _ => Diagnostic.unsupportedBooleanOperator
  | .queryTooComplex _ => Diagnostic.generalQueryTooComplex
  | .unsupportedExpression => Diagnostic.generalQueryTooComplex
  | .unknownQueryNode _ => Diagnostic.cannotProcessQuery
  | .unknownUdTag _ => Diagnostic.querySyntaxError
  | .unknownSucTag _ => Diagnostic.cannotProcessQuery
  | .unsupportedQueryType _ => Diagnostic.cannotProcessQuery

/-- The supplementary detail: the operator at fault, or the message again where the diagnostic
itself says too little. -/
def details (refusal : Refusal) : Option String :=
  match refusal with
  | .unsupportedBooleanOperator operator => some operator
  | .unsupportedExpression => some refusal.message
  | .unknownQueryNode _ => some refusal.message
  | .unsupportedQueryType _ => some refusal.message
  | .queryTooComplex _ => none
  | .unknownUdTag _ => none
  | .unknownSucTag _ => none

/-- The diagnostic that reports the refusal. -/
def diagnostic (refusal : Refusal) : Diagnostic :=
  ⟨refusal.uri, refusal.details, refusal.message⟩

end Refusal

/-- The language that a request declares; any other text is an error that carries it unchanged. -/
def QueryType.ofText (text : String) : Except Refusal QueryType :=
  match QueryType.ofText? text with
  | some type => .ok type
  | none => .error (.unsupportedQueryType text)

end CorpusQuery
