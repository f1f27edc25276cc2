/-
  CorpusQuery.Fcs.Tokens

  FCS-QL queries as corpus queries. Supported are single segments and sequences
  of segments, over the word, lemma and part-of-speech layers, with simple
  expressions, the wildcard, and boolean expressions of two simple operands.
-/
import CorpusQuery.Cqp.Basic
import CorpusQuery.Fcs.Basic
import CorpusQuery.Log.Logged
import CorpusQuery.PartOfSpeech

namespace CorpusQuery.Fcs

/-! ## Constraints -/

/-- The attribute that a layer identifier stands for: three names mean the word itself. -/
def attributeOf? (identifier : String) : Option Cqp.Attribute :=
  if identifier = "text" || identifier = "token" || identifier = "word" then some .word
  else if identifier = "lemma" then some .baseForm
  else if identifier = "pos" then some .pos
  else none

/-- The identifiers that stand for an attribute. -/
def layerNames : List String :=
  ["text", "token", "word", "lemma", "pos"]

theorem attributeOf?_eq_none_iff {identifier : String} :
    attributeOf? identifier = none ↔ identifier ∉ layerNames := by
  refine ⟨fun h hmem => ?_, fun h => ?_⟩
  · simp only [layerNames, List.mem_cons, List.not_mem_nil, or_false] at hmem
    rcases hmem with rfl | rfl | rfl | rfl | rfl <;> cases h
  · simp only [layerNames, List.mem_cons, List.not_mem_nil, or_false, not_or] at h
    obtain ⟨htext, htoken, hword, hlemma, hpos⟩ := h
    simp [attributeOf?, htext, htoken, hword, hlemma, hpos]

theorem mem_layerNames_of_attributeOf? {identifier : String} {layer : Cqp.Attribute}
    (h : attributeOf? identifier = some layer) : identifier ∈ layerNames := by
  by_cases hmem : identifier ∈ layerNames
  · exact hmem
  · rw [attributeOf?_eq_none_iff.mpr hmem] at h
    cases h

theorem attributeOf?_eq_pos_iff {identifier : String} :
    attributeOf? identifier = some .pos ↔ identifier = "pos" := by
  refine ⟨fun h => ?_, fun h => ?_⟩
  · have hmem := mem_layerNames_of_attributeOf? h
    simp only [layerNames, List.mem_cons, List.not_mem_nil, or_false] at hmem
    rcases hmem with rfl | rfl | rfl | rfl | rfl
    · cases h
    · cases h
    · cases h
    · cases h
    · rfl
  · rw [h]
    rfl

/-- Case-sensitive matching is the default of corpus queries and needs no flag. -/
def FlagSet.toCqp (flags : FlagSet) : Cqp.Flags :=
  ⟨flags.caseInsensitive, flags.literalMatching, flags.ignoreDiacritics⟩

/-- The operator asks for a difference. -/
def Operator.negates : Operator → Bool
  | .equals => false
  | .notEquals => true

/-- The constraint that a simple expression stands for. The value of a part of speech is a
universal tag, and its flags do not count. -/
def SimpleExpression.constraint (expression : SimpleExpression) :
    Except Refusal Cqp.Constraint :=
  let negated := expression.operator.negates
  -- A qualifier and an unknown layer are refused before the regular expression is looked at.
  match expression.qualifier, attributeOf? expression.identifier with
  | none, some .word => .ok (.word negated expression.regex expression.flags.toCqp)
  | none, some .baseForm => .ok (.baseForm negated expression.regex expression.flags.toCqp)
  | none, some .pos =>
    (PartOfSpeech.sucCandidates expression.regex).map fun tags =>
      .pos negated (tags.map SucTag.name)
  | _, _ => .error .unsupportedExpression

/-- The constraint of an operand, which has to be a simple expression. -/
def Expression.operandConstraint : Expression → Except Refusal Cqp.Constraint
  | .simple expression => expression.constraint
  | _ => .error (.ofShape .operand)

/-- The constraints of two operands; the left one is looked at first. -/
def operandPair (operands : List Expression) :
    Except Refusal (Cqp.Constraint × Cqp.Constraint) :=
  match operands with
  | [left, right] => do
    let left ← left.operandConstraint
    let right ← right.operandConstraint
    return (left, right)
  | _ => .error (.ofShape (.operandCount operands.length))

/-! ## Segments and queries -/

/-- The bounds of a segment. -/
def Segment.times (segment : Segment) : Cqp.Repetition :=
  ⟨segment.minOccurs, segment.maxOccurs⟩

/-- The token pattern of a segment. The bounds of a boolean expression do not count. -/
def Segment.token (segment : Segment) : Except Refusal Cqp.Token :=
  match segment.expression with
  | .and operands => (operandPair operands).map fun pair => .both pair.1 pair.2
  | .or operands => (operandPair operands).map fun pair => .either pair.1 pair.2
  | .simple expression =>
    expression.constraint.map fun constraint => .repeated constraint segment.times
  | .wildcard => .ok (.any segment.times)
  | .not _ => .error (.ofShape .segment)
  | .group _ => .error (.ofShape .segment)

/-- The token pattern of a segment, reported once it is found. -/
def Segment.tokenReported (segment : Segment) : Logged Refusal Cqp.Token := do
  let token ← Logged.ofExcept segment.token
  Logged.report (.segmentDone (Cqp.render [token]))
  return token

/-- The token patterns of the segments in a sequence. Other children are reported and add nothing;
the first segment at fault ends the query. -/
def childTokens : List Node → Logged Refusal (List Cqp.Token)
  | [] => return []
  | .segment segment :: rest => do
    let token ← segment.tokenReported
    let later ← childTokens rest
    return token :: later
  | child :: rest => do
    Logged.report (.skippedChild child.kind)
    childTokens rest

/-- The corpus query for a query. -/
def Node.tokens (node : Node) : Logged Refusal (List Cqp.Token) :=
  match node with
  | .sequence children => childTokens children
  | .segment body => do
    let token ← body.tokenReported
    return [token]
  | _ => .fail (.ofShape .root)

/-- The text of the corpus query for a query. -/
def Node.toCqp (node : Node) : Logged Refusal String := do
  Logged.report (.fcsBegun node)
  let tokens ← node.tokens
  Logged.report (.fcsDone (Cqp.render tokens))
  return Cqp.render tokens

end CorpusQuery.Fcs
