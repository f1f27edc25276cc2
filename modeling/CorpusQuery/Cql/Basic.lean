/-
  CorpusQuery.Cql.Basic

  The trees of CQL, the language of basic search, and the text that shows one.
  A parser made the tree; indexes, relations and modifiers are carried along.
-/

namespace CorpusQuery.Cql

/-! ## Trees -/

/-- A boolean operator. -/
inductive Boolean where
  | and
  | or
  | not
  | prox
  deriving DecidableEq, Repr

/-- A modifier of an operator, such as a greatest distance. -/
structure Modifier where
  name : String
  comparison : Option String
  value : Option String
  deriving DecidableEq, Repr

/-- An operator with its modifiers. -/
structure Operator where
  value : Boolean
  modifiers : List Modifier
  deriving DecidableEq, Repr

/-- A query: two queries joined by an operator, or a term, perhaps to be found in an index. -/
inductive Node where
  | triple (operator : Operator) (left right : Node)
  | searchClause (index relation : Option String) (term : String)
  deriving DecidableEq, Repr

/-! ## Making trees -/

/-- A term without index or relation. -/
def Node.ofTerm (term : String) : Node :=
  .searchClause none none term

/-- Two queries joined by an operator without modifiers. -/
def Node.join (value : Boolean) (left right : Node) : Node :=
  .triple ⟨value, []⟩ left right

/-! ## Words -/

/-- The word for the operator. -/
def Boolean.word : Boolean → String
  | .and => "and"
  | .or => "or"
  | .not => "not"
  | .prox => "prox"

/-- The operator named by a word. -/
def Boolean.ofWord? (word : String) : Option Boolean :=
  [Boolean.and, .or, .not, .prox].find? fun value => value.word = word

theorem Boolean.ofWord?_word (value : Boolean) : ofWord? value.word = some value := by
  cases value <;> rfl

/-! ## Display text -/

/-- The index and the relation in front of a term; the relation is an equals sign if none is given,
and without an index nothing is shown. -/
def scopeChars (index relation : Option String) : List Char :=
  match index with
  | some index => index.toList ++ ' ' :: (relation.getD "=").toList ++ [' ']
  | none => []

/-- The text that shows a query: operators stand between their operands in parentheses, terms
between quotes. -/
def Node.displayChars : Node → List Char
  | .triple operator left right =>
    '(' :: left.displayChars ++ ' ' :: operator.value.word.toList ++ ' ' :: right.displayChars
      ++ [')']
  | .searchClause index relation term =>
    scopeChars index relation ++ '"' :: term.toList ++ ['"']

/-- The text that shows a query. -/
def Node.display (node : Node) : String :=
  String.ofList node.displayChars

end CorpusQuery.Cql
