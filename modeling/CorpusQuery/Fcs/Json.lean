/-
  CorpusQuery.Fcs.Json

  The JSON form of FCS-QL trees. Bounds are always written and stand for one
  where they are left out; flags are written once each in their fixed order and
  read in any order.

  The tool reads some further spellings that nothing writes and that are left
  out here: an array of the fields in order in place of an object, a number in
  place of the word for a kind, and an object with a word as its one name and
  null as its value in place of the word.
-/
import CorpusQuery.Fcs.Basic
import CorpusQuery.Json.Field

namespace CorpusQuery.Fcs

open Json (text? optionalText? list? countOrOne? optionalMember listMember ofCount)

/-! ## Writing -/

/-- The members of a simple expression. -/
def SimpleExpression.members (expression : SimpleExpression) : List (String × Json) :=
  ("identifier", .str expression.identifier)
    :: optionalMember "qualifier" expression.qualifier
    ++ [("operator", .str expression.operator.word), ("regex", .str expression.regex)]
    ++ listMember "regex_flags" (expression.flags.toList.map fun flag => .str flag.word)

/-- The JSON form of a simple expression by itself. -/
def SimpleExpression.toJson (expression : SimpleExpression) : Json :=
  .obj expression.members

mutual

/-- The JSON form of an expression. -/
def Expression.toJson : Expression → Json
  | .simple expression => .obj (("type", .str "simple") :: expression.members)
  | .and operands =>
    .obj [("type", .str "and"), ("operands", .arr (Expression.listToJson operands))]
  | .or operands =>
    .obj [("type", .str "or"), ("operands", .arr (Expression.listToJson operands))]
  | .not operand => .obj [("type", .str "not"), ("operand", operand.toJson)]
  | .group expression => .obj [("type", .str "group"), ("expression", expression.toJson)]
  | .wildcard => .obj [("type", .str "wildcard")]

/-- The JSON forms of operands. -/
def Expression.listToJson : List Expression → List Json
  | [] => []
  | operand :: rest => operand.toJson :: Expression.listToJson rest

end

/-- The members for the bounds of a segment or a group. -/
def boundMembers (minOccurs maxOccurs : UInt32) : List (String × Json) :=
  [("min_occurs", ofCount minOccurs), ("max_occurs", ofCount maxOccurs)]

/-- The members of a segment. -/
def Segment.members (segment : Segment) : List (String × Json) :=
  ("expression", segment.expression.toJson) :: boundMembers segment.minOccurs segment.maxOccurs

/-- The JSON form of a segment by itself. -/
def Segment.toJson (segment : Segment) : Json :=
  .obj segment.members

mutual

/-- The JSON form of a query. -/
def Node.toJson : Node → Json
  | .sequence children =>
    .obj [("type", .str "sequence"), ("children", .arr (Node.listToJson children))]
  | .segment body => .obj (("type", .str "segment") :: body.members)
  | .disjunction children =>
    .obj [("type", .str "disjunction"), ("children", .arr (Node.listToJson children))]
  | .group query minOccurs maxOccurs =>
    .obj (("type", .str "group") :: ("query", query.toJson) :: boundMembers minOccurs maxOccurs)
  | .withWithin query scope =>
    .obj [("type", .str "with_within"), ("query", query.toJson), ("scope", .str scope.word)]

/-- The JSON forms of children. -/
def Node.listToJson : List Node → List Json
  | [] => []
  | child :: rest => child.toJson :: Node.listToJson rest

end

/-! ## Reading -/

/-- Reads the word for a flag. -/
def RegexFlag.ofJson? : Json → Option RegexFlag
  | .str word => RegexFlag.ofWord? word
  | _ => none

/-- Reads a simple expression. -/
def SimpleExpression.ofJson? (value : Json) : Option SimpleExpression := do
  let identifier ← text? value "identifier"
  let qualifier ← optionalText? value "qualifier"
  let operator ← (text? value "operator").bind Operator.ofWord?
  let regex ← text? value "regex"
  let flags ← (← list? value "regex_flags").mapM RegexFlag.ofJson?
  return ⟨identifier, qualifier, operator, regex, .ofList flags⟩

/-- Reads an expression. -/
def Expression.ofJson? (value : Json) : Option Expression :=
  match text? value "type" with
  | some "simple" => (SimpleExpression.ofJson? value).map .simple
  | some "and" => do
    let ⟨operands, _⟩ ← value.part? "operands"
    let operands ← (← operands.items?).mapM fun ⟨operand, _⟩ => Expression.ofJson? operand
    return .and operands
  | some "or" => do
    let ⟨operands, _⟩ ← value.part? "operands"
    let operands ← (← operands.items?).mapM fun ⟨operand, _⟩ => Expression.ofJson? operand
    return .or operands
  | some "not" => do
    let ⟨operand, _⟩ ← value.part? "operand"
    return .not (← Expression.ofJson? operand)
  | some "group" => do
    let ⟨expression, _⟩ ← value.part? "expression"
    return .group (← Expression.ofJson? expression)
  | some "wildcard" => some .wildcard
  | _ => none
termination_by sizeOf value

/-- Reads a segment. -/
def Segment.ofJson? (value : Json) : Option Segment := do
  let expression ← (value.get? "expression").bind Expression.ofJson?
  let minOccurs ← countOrOne? value "min_occurs"
  let maxOccurs ← countOrOne? value "max_occurs"
  return ⟨expression, minOccurs, maxOccurs⟩

/-- Reads a query. The whole tree has to be well formed, also the parts that no corpus query would
look at. -/
def Node.ofJson? (value : Json) : Option Node :=
  match text? value "type" with
  | some "sequence" => do
    let ⟨children, _⟩ ← value.part? "children"
    let children ← (← children.items?).mapM fun ⟨child, _⟩ => Node.ofJson? child
    return .sequence children
  | some "segment" => (Segment.ofJson? value).map .segment
  | some "disjunction" => do
    let ⟨children, _⟩ ← value.part? "children"
    let children ← (← children.items?).mapM fun ⟨child, _⟩ => Node.ofJson? child
    return .disjunction children
  | some "group" => do
    let ⟨query, _⟩ ← value.part? "query"
    let query ← Node.ofJson? query
    let minOccurs ← countOrOne? value "min_occurs"
    let maxOccurs ← countOrOne? value "max_occurs"
    return .group query minOccurs maxOccurs
  | some "with_within" => do
    let ⟨query, _⟩ ← value.part? "query"
    let query ← Node.ofJson? query
    let scope ← (text? value "scope").bind WithinScope.ofWord?
    return .withWithin query scope
  | _ => none
termination_by sizeOf value

end CorpusQuery.Fcs
