/-
  CorpusQuery.Log.Shown

  Configurations and FCS-QL trees as they are shown in log lines: in one line,
  by the names of their kinds and parts.
-/
import CorpusQuery.Config.Basic
import CorpusQuery.Fcs.Basic
import CorpusQuery.Text.Quote

namespace CorpusQuery

/-! ## Kinds of values -/

namespace Log.Shown

/-- Items with commas between them. -/
def items (shown : List String) : String :=
  String.intercalate ", " shown

/-- A list of values. -/
def list (shown : List String) : String :=
  "[" ++ items shown ++ "]"

/-- A set of values. -/
def set (shown : List String) : String :=
  "\x7b" ++ items shown ++ "\x7d"

/-- A value of a kind that holds one other value. -/
def holding (kind shown : String) : String :=
  kind ++ "(" ++ shown ++ ")"

/-- A value that may be absent. -/
def optional (shown : Option String) : String :=
  shown.elim "None" (holding "Some")

/-- A value of a kind with named parts. -/
def parts (kind : String) (shown : List (String × String)) : String :=
  kind ++ " \x7b " ++ items (shown.map fun part => part.1 ++ ": " ++ part.2) ++ " \x7d"

/-- The letters of a word without its underscores, with a capital at each beginning. -/
def nameChars : Bool → List Char → List Char
  | _, [] => []
  | begins, c :: rest =>
    if c = '_' then nameChars true rest
    else (if begins then c.toUpper else c) :: nameChars false rest

/-- A value that has a word, by its name. -/
def name (word : String) : String :=
  String.ofList (nameChars true word.toList)

end Log.Shown

open Log.Shown (list set holding optional parts name)

/-! ## Configurations -/

/-- A configuration in one line. -/
def Config.shown (config : Config) : String :=
  parts "CliConfig" [
    ("log_level", optional (config.logLevel.map fun level => name level.word)),
    ("output", parts "OutputConfig" [
      ("format", name config.format.word),
      ("pretty", toString config.pretty)]),
    ("query", parts "QueryConfig" [("default_type", name config.defaultType.word)])]

/-! ## Trees -/

namespace Fcs

/-- A simple expression in one line. -/
def SimpleExpression.shown (expression : SimpleExpression) : String :=
  parts "SimpleExpression" [
    ("identifier", Text.quote expression.identifier),
    ("qualifier", optional (expression.qualifier.map Text.quote)),
    ("operator", name expression.operator.word),
    ("regex", Text.quote expression.regex),
    ("regex_flags", set (expression.flags.toList.map fun flag => name flag.word))]

mutual

/-- An expression in one line. -/
def Expression.shown : Expression → String
  | .simple expression => holding "Simple" expression.shown
  | .and operands => parts "And" [("operands", list (Expression.listShown operands))]
  | .or operands => parts "Or" [("operands", list (Expression.listShown operands))]
  | .not operand => parts "Not" [("operand", operand.shown)]
  | .group expression => parts "Group" [("expression", expression.shown)]
  | .wildcard => "Wildcard"

/-- Operands, each in one line. -/
def Expression.listShown : List Expression → List String
  | [] => []
  | operand :: rest => operand.shown :: Expression.listShown rest

end

/-- The bounds of a segment or a group. -/
def boundsShown (minOccurs maxOccurs : UInt32) : List (String × String) :=
  [("min_occurs", toString minOccurs), ("max_occurs", toString maxOccurs)]

/-- A segment in one line. -/
def Segment.shown (segment : Segment) : String :=
  parts "QuerySegment"
    (("expression", segment.expression.shown) :: boundsShown segment.minOccurs segment.maxOccurs)

mutual

/-- A query in one line. -/
def Node.shown : Node → String
  | .sequence children => parts "Sequence" [("children", list (Node.listShown children))]
  | .segment body => holding "Segment" body.shown
  | .disjunction children => parts "Disjunction" [("children", list (Node.listShown children))]
  | .group query minOccurs maxOccurs =>
    parts "Group" (("query", query.shown) :: boundsShown minOccurs maxOccurs)
  | .withWithin query scope =>
    parts "WithWithin" [("query", query.shown), ("scope", name scope.word)]

/-- Children, each in one line. -/
def Node.listShown : List Node → List String
  | [] => []
  | child :: rest => child.shown :: Node.listShown rest

end

end Fcs

end CorpusQuery
