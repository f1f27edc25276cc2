/-
  CorpusQuery.Fcs.Basic

  The trees of FCS-QL, the language of advanced search: query nodes around
  segments, and segments that hold an expression on one token each. The trees
  are richer than what corpus queries can say, so that whole queries can be held.
-/

namespace CorpusQuery.Fcs

/-! ## Regular expression flags -/

/-- A flag of a regular expression. -/
inductive RegexFlag where
  | caseInsensitive
  | caseSensitive
  | literalMatching
  | ignoreDiacritics
  deriving DecidableEq, Repr

/-- A set of flags. -/
structure FlagSet where
  caseInsensitive : Bool
  caseSensitive : Bool
  literalMatching : Bool
  ignoreDiacritics : Bool
  deriving DecidableEq, Repr

namespace FlagSet

/-- The set without flags. -/
def empty : FlagSet :=
  ⟨false, false, false, false⟩

/-- The flag is in the set. -/
def contains (flags : FlagSet) : RegexFlag → Bool
  | .caseInsensitive => flags.caseInsensitive
  | .caseSensitive => flags.caseSensitive
  | .literalMatching => flags.literalMatching
  | .ignoreDiacritics => flags.ignoreDiacritics

/-- The set with one more flag. -/
def insert (flags : FlagSet) : RegexFlag → FlagSet
  | .caseInsensitive => { flags with caseInsensitive := true }
  | .caseSensitive => { flags with caseSensitive := true }
  | .literalMatching => { flags with literalMatching := true }
  | .ignoreDiacritics => { flags with ignoreDiacritics := true }

/-- The set with all flags of a list. -/
def insertAll (flags : FlagSet) (more : List RegexFlag) : FlagSet :=
  more.foldl insert flags

/-- The set of the flags of a list. -/
def ofList (flags : List RegexFlag) : FlagSet :=
  empty.insertAll flags

/-- The flags of the set, each once, in their fixed order. -/
def toList (flags : FlagSet) : List RegexFlag :=
  [RegexFlag.caseInsensitive, .caseSensitive, .literalMatching, .ignoreDiacritics].filter
    flags.contains

theorem ofList_toList (flags : FlagSet) : ofList flags.toList = flags := by
  obtain ⟨a, b, c, d⟩ := flags
  cases a <;> cases b <;> cases c <;> cases d <;> rfl

end FlagSet

/-! ## Expressions -/

/-- How a simple expression compares. -/
inductive Operator where
  | equals
  | notEquals
  deriving DecidableEq, Repr

/-- A layer, perhaps with a qualifier, compared with a regular expression. -/
structure SimpleExpression where
  identifier : String
  qualifier : Option String
  operator : Operator
  regex : String
  flags : FlagSet
  deriving DecidableEq, Repr

/-- An expression on one token. The wildcard holds of every token. -/
inductive Expression where
  | simple (expression : SimpleExpression)
  | and (operands : List Expression)
  | or (operands : List Expression)
  | not (operand : Expression)
  | group (expression : Expression)
  | wildcard
  deriving Repr, BEq

/-- One token position, repeated from `minOccurs` to `maxOccurs` times. -/
structure Segment where
  expression : Expression
  minOccurs : UInt32
  maxOccurs : UInt32
  deriving Repr, BEq

/-! ## Queries -/

/-- The stretch of text that a query has to match within. -/
inductive WithinScope where
  | sentence
  | utterance
  | paragraph
  | turn
  | text
  | session
  deriving DecidableEq, Repr

/-- A query. -/
inductive Node where
  | sequence (children : List Node)
  | segment (segment : Segment)
  | disjunction (children : List Node)
  | group (query : Node) (minOccurs maxOccurs : UInt32)
  | withWithin (query : Node) (scope : WithinScope)
  deriving Repr, BEq

/-- The five kinds of query nodes. -/
inductive NodeKind where
  | sequence
  | segment
  | disjunction
  | group
  | withWithin
  deriving DecidableEq, Repr

/-- The kind of a node. -/
def Node.kind : Node → NodeKind
  | .sequence _ => .sequence
  | .segment _ => .segment
  | .disjunction _ => .disjunction
  | .group _ _ _ => .group
  | .withWithin _ _ => .withWithin

/-! ## Making trees -/

/-- A simple expression without qualifier and flags. -/
def SimpleExpression.of (identifier : String) (operator : Operator) (regex : String) :
    SimpleExpression :=
  ⟨identifier, none, operator, regex, .empty⟩

/-- The expression with a qualifier. -/
def SimpleExpression.withQualifier (expression : SimpleExpression) (qualifier : String) :
    SimpleExpression :=
  { expression with qualifier := some qualifier }

/-- The expression with more flags. -/
def SimpleExpression.withFlags (expression : SimpleExpression) (flags : List RegexFlag) :
    SimpleExpression :=
  { expression with flags := expression.flags.insertAll flags }

/-- A segment that occurs exactly once. -/
def Segment.once (expression : Expression) : Segment :=
  ⟨expression, 1, 1⟩

/-- The segment with other bounds. The bounds are taken as they come, also out of order. -/
def Segment.withOccurs (segment : Segment) (minOccurs maxOccurs : UInt32) : Segment :=
  { segment with minOccurs := minOccurs, maxOccurs := maxOccurs }

/-! ## Words -/

/-- The word for a flag. -/
def RegexFlag.word : RegexFlag → String
  | .caseInsensitive => "case_insensitive"
  | .caseSensitive => "case_sensitive"
  | .literalMatching => "literal_matching"
  | .ignoreDiacritics => "ignore_diacritics"

/-- The flag named by a word. -/
def RegexFlag.ofWord? (word : String) : Option RegexFlag :=
  [RegexFlag.caseInsensitive, .caseSensitive, .literalMatching, .ignoreDiacritics].find?
    fun flag => flag.word = word

/-- The word for an operator. -/
def Operator.word : Operator → String
  | .equals => "equals"
  | .notEquals => "not_equals"

/-- The operator named by a word. -/
def Operator.ofWord? (word : String) : Option Operator :=
  [Operator.equals, .notEquals].find? fun operator => operator.word = word

/-- The word for a scope. -/
def WithinScope.word : WithinScope → String
  | .sentence => "sentence"
  | .utterance => "utterance"
  | .paragraph => "paragraph"
  | .turn => "turn"
  | .text => "text"
  | .session => "session"

/-- The scope named by a word. -/
def WithinScope.ofWord? (word : String) : Option WithinScope :=
  [WithinScope.sentence, .utterance, .paragraph, .turn, .text, .session].find?
    fun scope => scope.word = word

/-- The word for a kind of node. -/
def NodeKind.word : NodeKind → String
  | .sequence => "sequence"
  | .segment => "segment"
  | .disjunction => "disjunction"
  | .group => "group"
  | .withWithin => "with_within"

theorem RegexFlag.ofWord?_word (flag : RegexFlag) : ofWord? flag.word = some flag := by
  cases flag <;> rfl

theorem Operator.ofWord?_word (operator : Operator) : ofWord? operator.word = some operator := by
  cases operator <;> rfl

theorem WithinScope.ofWord?_word (scope : WithinScope) : ofWord? scope.word = some scope := by
  cases scope <;> rfl

end CorpusQuery.Fcs
