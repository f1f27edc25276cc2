/-
  CorpusQuery.Query.Input

  Queries as they are handed in: a bare tree, or an envelope that names the
  language of its tree.
-/
import CorpusQuery.Json.Reader
import CorpusQuery.Query.Basic

namespace CorpusQuery.Query

/-- Why a JSON value is no query. -/
inductive InputError where
  | invalidEnvelope
  | invalidTree (type : QueryType)
  | unknownType (error : Refusal)
  deriving DecidableEq, Repr

/-- The fault in words, apart from an unknown type. -/
def InputError.message : InputError → String
  | .invalidEnvelope => "Invalid query envelope"
  | .invalidTree .cql => "Invalid CQL query tree"
  | .invalidTree .fcs => "Invalid FCS-QL query tree"
  | .unknownType error => error.message

/-- An envelope is an object that has a query type and a tree, of whatever form. -/
def isEnveloped (value : Json) : Bool :=
  value.has "query_type" && value.has "tree"

/-- The declared type and the query of a JSON value. An envelope declares its own type, a bare tree
has the default type; a type given with the request goes before both. -/
def ofInput (given : Option String) (defaultType : QueryType) (value : Json) :
    Except InputError (String × Query) :=
  if isEnveloped value then
    match ofJson? value with
    | some query => .ok (given.getD query.type.word, query)
    | none => .error .invalidEnvelope
  else
    let declared := given.getD defaultType.word
    match QueryType.ofText declared with
    | .error error => .error (.unknownType error)
    | .ok type =>
      match ofTree? type value with
      | some query => .ok (declared, query)
      | none => .error (.invalidTree type)

end CorpusQuery.Query
