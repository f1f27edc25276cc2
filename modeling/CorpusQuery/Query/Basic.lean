/-
  CorpusQuery.Query.Basic

  Parsed queries of either language, their JSON envelope, and the corpus query
  for a query under the query type that a request declares.
-/
import CorpusQuery.Cql.Json
import CorpusQuery.Cql.Tokens
import CorpusQuery.Fcs.Json
import CorpusQuery.Fcs.Tokens

namespace CorpusQuery

/-- A parsed query. -/
inductive Query where
  | cql (tree : Cql.Node)
  | fcs (tree : Fcs.Node)
  deriving Repr, BEq

namespace Query

/-- The language of a query. -/
def type : Query → QueryType
  | .cql _ => .cql
  | .fcs _ => .fcs

/-! ## JSON -/

/-- The tree of a query without its language. -/
def treeToJson : Query → Json
  | .cql tree => tree.toJson
  | .fcs tree => tree.toJson

/-- The envelope of a query: its language and its tree. -/
def toJson (query : Query) : Json :=
  .obj [("query_type", .str query.type.word), ("tree", query.treeToJson)]

/-- Reads a tree of the given language. -/
def ofTree? (type : QueryType) (value : Json) : Option Query :=
  match type with
  | .cql => (Cql.Node.ofJson? value).map .cql
  | .fcs => (Fcs.Node.ofJson? value).map .fcs

/-- Reads an envelope. -/
def ofJson? (value : Json) : Option Query := do
  let type ← (Json.text? value "query_type").bind QueryType.ofWord?
  let tree ← value.get? "tree"
  ofTree? type tree

/-! ## Corpus queries -/

/-- The corpus query for a tree, by the rules of its own language. -/
def treeToCqp : Query → Logged Refusal String
  | .cql tree => tree.toCqp
  | .fcs tree => tree.toCqp

/-- The corpus query for a query, if the declared type is that of the query. -/
def toCqp (query : Query) (declared : String) : Logged Refusal String := do
  let type ← Logged.ofExcept (QueryType.ofText declared)
  if type = query.type then query.treeToCqp
  else do
    Logged.report (.typeMismatch type query.type)
    Logged.fail (.unsupportedQueryType declared)

end Query

end CorpusQuery
