/-
  CorpusQuery.Cql.Tokens

  CQL queries as corpus queries. Only plain terms are supported: every word of
  a term becomes a token with that word in lower case. Boolean operators are
  refused.
-/
import CorpusQuery.Cql.Basic
import CorpusQuery.Cqp.Basic
import CorpusQuery.Diagnostic
import CorpusQuery.Log.Logged

namespace CorpusQuery.Cql

/-- The two quotation marks that are stripped from words. -/
def isQuote (c : Char) : Bool :=
  c = '"' || c = '\''

/-- The words that a term asks for: its words in lower case, and without the quotes around them
unless the term is a single word. -/
def termWords (term : String) : List (List Char) :=
  -- The whole term is lowered before it is split, as the final sigma looks at its neighbours.
  match Text.words (Text.lower term.toList) with
  | [single] => [single]
  | several => several.map (Text.trimWhere isQuote)

/-- A token with the given word. -/
def wordToken (word : List Char) : Cqp.Token :=
  .plain (.word false (String.ofList word) .none)

/-- The corpus query for a query; a term without words asks for nothing. -/
def Node.tokens (node : Node) : Logged Refusal (List Cqp.Token) :=
  match node with
  | .triple operator _ _ => .fail (.unsupportedBooleanOperator operator.value.word)
  | .searchClause _ _ term => do
    let words := termWords term
    if words.isEmpty then Logged.report .emptyTerm
    return words.map wordToken

/-- The text of the corpus query for a query. -/
def Node.toCqp (node : Node) : Logged Refusal String := do
  Logged.report (.cqlBegun node)
  let tokens ← node.tokens
  Logged.report (.cqlDone (Cqp.render tokens))
  return Cqp.render tokens

end CorpusQuery.Cql
