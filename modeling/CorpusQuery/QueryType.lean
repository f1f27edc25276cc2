/-
  CorpusQuery.QueryType

  The two query languages of the search endpoint and the words that name them
  in requests.
-/
import CorpusQuery.Text.Case

namespace CorpusQuery

/-- A query language: CQL for basic search, FCS-QL for advanced search. -/
inductive QueryType where
  | cql
  | fcs
  deriving DecidableEq, Repr

namespace QueryType

/-- The word that names the language. -/
def word : QueryType → String
  | .cql => "cql"
  | .fcs => "fcs"

/-- The language named by a word, exactly as it is written. -/
def ofWord? (word : String) : Option QueryType :=
  if word = "cql" then some .cql
  else if word = "fcs" then some .fcs
  else none

/-- The language that a request declares: its word, in any case and between any blanks. -/
def ofText? (text : String) : Option QueryType :=
  ofWord? (String.ofList (Text.lower (Text.trim text.toList)))

theorem ofWord?_word (type : QueryType) : ofWord? type.word = some type := by
  cases type <;> rfl

end QueryType

end CorpusQuery
