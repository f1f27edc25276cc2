/-
  CorpusQuery.Proofs.Fcs.Acceptance

  Which FCS-QL queries become corpus queries, and which refusal the others meet.
  Support is a property of a query's shape. A refusal is reported by the first
  segment without support, and inside it by the first part at fault: the shape
  of the expression, the number of operands, the left operand, the right one.
-/
import CorpusQuery.Proofs.Fcs.Segments
import Mathlib.Data.List.Basic

namespace CorpusQuery.Fcs

/-! ## Support -/

/-- A simple expression on a known layer without a qualifier, whose value is a known tag if the
layer is that of parts of speech. -/
structure SimpleExpression.Supported (expression : SimpleExpression) : Prop where
  unqualified : expression.qualifier = none
  layer : expression.identifier ∈ layerNames
  tag : expression.identifier = "pos" →
    ∃ tags, PartOfSpeech.sucCandidates expression.regex = .ok tags

/-- An operand has to be a supported simple expression. -/
def Expression.SupportedOperand : Expression → Prop
  | .simple expression => expression.Supported
  | _ => False

/-- A segment may hold the wildcard, a simple expression or two operands. -/
def Expression.Supported : Expression → Prop
  | .wildcard => True
  | .simple expression => expression.Supported
  | .and operands => operands.length = 2 ∧ ∀ operand ∈ operands, operand.SupportedOperand
  | .or operands => operands.length = 2 ∧ ∀ operand ∈ operands, operand.SupportedOperand
  | .not _ => False
  | .group _ => False

/-- A sequence or a segment, all of whose segments are supported. -/
def Node.Supported (node : Node) : Prop :=
  node.IsRoot ∧ ∀ segment ∈ node.segments, segment.expression.Supported

/-! ## Faults -/

/-- What is wrong with a simple expression. The tag is looked at last. -/
inductive SimpleExpression.Fault (expression : SimpleExpression) : Refusal → Prop
  | qualified (h : expression.qualifier ≠ none) : Fault expression .unsupportedExpression
  | unknownLayer (h : expression.identifier ∉ layerNames) :
      Fault expression .unsupportedExpression
  | unknownTag (hqualifier : expression.qualifier = none) (hlayer : expression.identifier = "pos")
      (htag : ∀ tags, PartOfSpeech.sucCandidates expression.regex ≠ .ok tags) :
      Fault expression (.unknownUdTag expression.regex)

/-- What is wrong with an operand. -/
inductive Expression.OperandFault : Expression → Refusal → Prop
  | notSimple {operand : Expression} (h : ∀ expression, operand ≠ .simple expression) :
      OperandFault operand
        (.queryTooComplex "Endpoint only supports simple expressions as boolean operands")
  | simple {expression : SimpleExpression} {refusal : Refusal} (h : expression.Fault refusal) :
      OperandFault (.simple expression) refusal

/-- What is wrong with the operands of a boolean expression. The right operand counts only once the
left one is supported. -/
inductive OperandsFault : List Expression → Refusal → Prop
  | count {operands : List Expression} (h : operands.length ≠ 2) :
      OperandsFault operands (.queryTooComplex
        ("Boolean expression should have exactly two operands, got " ++ toString operands.length))
  | left {left right : Expression} {refusal : Refusal} (h : left.OperandFault refusal) :
      OperandsFault [left, right] refusal
  | right {left right : Expression} {refusal : Refusal} (hleft : left.SupportedOperand)
      (h : right.OperandFault refusal) : OperandsFault [left, right] refusal

/-- What is wrong with the expression of a segment. -/
inductive Expression.Fault : Expression → Refusal → Prop
  | not (operand : Expression) : Fault (.not operand)
      (.queryTooComplex "Endpoint only supports sequences or single segment expressions")
  | group (expression : Expression) : Fault (.group expression)
      (.queryTooComplex "Endpoint only supports sequences or single segment expressions")
  | simple {expression : SimpleExpression} {refusal : Refusal} (h : expression.Fault refusal) :
      Fault (.simple expression) refusal
  | and {operands : List Expression} {refusal : Refusal} (h : OperandsFault operands refusal) :
      Fault (.and operands) refusal
  | or {operands : List Expression} {refusal : Refusal} (h : OperandsFault operands refusal) :
      Fault (.or operands) refusal

/-- What is wrong with a query: its root, or the first of its segments that is not supported. -/
inductive Node.Fault (node : Node) : Refusal → Prop
  | root (h : ¬ node.IsRoot) : Fault node
      (.queryTooComplex "Endpoint only supports sequences or single segment queries")
  | segment {before after : List Segment} {segment : Segment} {refusal : Refusal}
      (hsplit : node.segments = before ++ segment :: after)
      (hbefore : ∀ earlier ∈ before, earlier.expression.Supported)
      (h : segment.expression.Fault refusal) : Fault node refusal

/-! ## Simple expressions -/

theorem sucCandidates_error {tag : String} {refusal : Refusal}
    (h : PartOfSpeech.sucCandidates tag = .error refusal) : refusal = .unknownUdTag tag := by
  unfold PartOfSpeech.sucCandidates at h
  split at h
  · cases h
  · exact (Except.error.inj h).symm

/-- A qualifier or an unknown layer is refused whatever the value is. -/
theorem SimpleExpression.constraint_unsupported {expression : SimpleExpression}
    (h : expression.qualifier ≠ none ∨ expression.identifier ∉ layerNames) :
    expression.constraint = .error .unsupportedExpression := by
  unfold SimpleExpression.constraint
  cases hqualifier : expression.qualifier with
  | some qualifier => rfl
  | none =>
      have hlayer : attributeOf? expression.identifier = none := by
        rcases h with h | h
        · exact absurd hqualifier h
        · exact attributeOf?_eq_none_iff.mpr h
      rw [hlayer]

/-- On the layer of parts of speech the tag decides. -/
theorem SimpleExpression.constraint_pos {expression : SimpleExpression}
    (hqualifier : expression.qualifier = none) (hlayer : expression.identifier = "pos") :
    expression.constraint = (PartOfSpeech.sucCandidates expression.regex).map
      fun tags => .pos expression.operator.negates (tags.map SucTag.name) := by
  unfold SimpleExpression.constraint
  rw [hqualifier, attributeOf?_eq_pos_iff.mpr hlayer]

/-- On the other known layers every value will do. -/
theorem SimpleExpression.constraint_regex {expression : SimpleExpression}
    (hqualifier : expression.qualifier = none) (hlayer : expression.identifier ∈ layerNames)
    (hpos : expression.identifier ≠ "pos") :
    ∃ constraint, expression.constraint = .ok constraint := by
  unfold SimpleExpression.constraint
  rw [hqualifier]
  cases hknown : attributeOf? expression.identifier with
  | none => exact absurd hlayer (attributeOf?_eq_none_iff.mp hknown)
  | some layer =>
      cases layer with
      | word => exact ⟨_, rfl⟩
      | baseForm => exact ⟨_, rfl⟩
      | pos => exact absurd (attributeOf?_eq_pos_iff.mp hknown) hpos

theorem SimpleExpression.exists_ok_iff (expression : SimpleExpression) :
    (∃ constraint, expression.constraint = .ok constraint) ↔ expression.Supported := by
  constructor
  · rintro ⟨constraint, h⟩
    have hqualifier : expression.qualifier = none := Decidable.byContradiction fun hne => by
      rw [SimpleExpression.constraint_unsupported (Or.inl hne)] at h
      cases h
    have hlayer : expression.identifier ∈ layerNames := Decidable.byContradiction fun hne => by
      rw [SimpleExpression.constraint_unsupported (Or.inr hne)] at h
      cases h
    refine ⟨hqualifier, hlayer, fun hpos => ?_⟩
    rw [SimpleExpression.constraint_pos hqualifier hpos] at h
    obtain ⟨tags, htags, -⟩ := Outcome.map_ok_iff.mp h
    exact ⟨tags, htags⟩
  · rintro ⟨hqualifier, hlayer, htag⟩
    -- Only a part of speech has a value that may be unknown.
    by_cases hpos : expression.identifier = "pos"
    · obtain ⟨tags, htags⟩ := htag hpos
      rw [SimpleExpression.constraint_pos hqualifier hpos, htags]
      exact ⟨_, rfl⟩
    · exact SimpleExpression.constraint_regex hqualifier hlayer hpos

theorem SimpleExpression.error_iff {expression : SimpleExpression} {refusal : Refusal} :
    expression.constraint = .error refusal ↔ expression.Fault refusal := by
  constructor
  · intro h
    -- The tests in the order in which they are made.
    by_cases hqualifier : expression.qualifier = none
    · by_cases hlayer : expression.identifier ∈ layerNames
      · by_cases hpos : expression.identifier = "pos"
        · rw [SimpleExpression.constraint_pos hqualifier hpos] at h
          have htag := Outcome.map_error_iff.mp h
          rw [sucCandidates_error htag]
          refine .unknownTag hqualifier hpos fun tags htags => ?_
          rw [htags] at htag
          cases htag
        · obtain ⟨constraint, hok⟩ := SimpleExpression.constraint_regex hqualifier hlayer hpos
          rw [hok] at h
          cases h
      · rw [SimpleExpression.constraint_unsupported (Or.inr hlayer)] at h
        cases h
        exact .unknownLayer hlayer
    · rw [SimpleExpression.constraint_unsupported (Or.inl hqualifier)] at h
      cases h
      exact .qualified hqualifier
  · intro h
    cases h with
    | qualified h => exact SimpleExpression.constraint_unsupported (Or.inl h)
    | unknownLayer h => exact SimpleExpression.constraint_unsupported (Or.inr h)
    | unknownTag hqualifier hlayer htag =>
        rw [SimpleExpression.constraint_pos hqualifier hlayer]
        cases hsuc : PartOfSpeech.sucCandidates expression.regex with
        | ok tags => exact absurd hsuc (htag tags)
        | error refusal => rw [sucCandidates_error hsuc]; rfl

/-! ## Operands -/

theorem Expression.operand_exists_ok_iff (operand : Expression) :
    (∃ constraint, operand.operandConstraint = .ok constraint) ↔ operand.SupportedOperand := by
  cases operand with
  | simple expression => exact SimpleExpression.exists_ok_iff expression
  | _ =>
      constructor
      · rintro ⟨constraint, h⟩
        cases h
      · intro h
        cases h

theorem Expression.operand_error_iff {operand : Expression} {refusal : Refusal} :
    operand.operandConstraint = .error refusal ↔ operand.OperandFault refusal := by
  constructor
  · intro h
    cases operand with
    | simple expression => exact .simple (SimpleExpression.error_iff.mp h)
    | _ =>
        cases h
        exact .notSimple fun expression h => Expression.noConfusion h
  · intro h
    cases h with
    | notSimple h =>
        cases operand with
        | simple expression => exact absurd rfl (h expression)
        | _ => rfl
    | simple h => exact SimpleExpression.error_iff.mpr h

/-- The left operand is looked at before the right one. -/
theorem operandPair_pair (left right : Expression) :
    operandPair [left, right] = left.operandConstraint.bind fun first =>
      right.operandConstraint.map fun second => (first, second) := by
  unfold operandPair
  refine congrArg (Except.bind left.operandConstraint) (funext fun first => ?_)
  cases right.operandConstraint with
  | ok second => rfl
  | error refusal => rfl

theorem operandPair_count {operands : List Expression} (h : operands.length ≠ 2) :
    operandPair operands = .error (.queryTooComplex
      ("Boolean expression should have exactly two operands, got "
        ++ toString operands.length)) := by
  match operands with
  | [] => rfl
  | [_] => rfl
  | [_, _] => exact absurd rfl h
  | _ :: _ :: _ :: rest =>
      rw [Nat.toString_eq_ofList_toDigits]
      rfl

theorem operandPair_exists_ok_iff (operands : List Expression) :
    (∃ pair, operandPair operands = .ok pair) ↔
      operands.length = 2 ∧ ∀ operand ∈ operands, operand.SupportedOperand := by
  constructor
  · rintro ⟨pair, h⟩
    have hlength : operands.length = 2 := Decidable.byContradiction fun hne => by
      rw [operandPair_count hne] at h
      cases h
    obtain ⟨left, right, rfl⟩ := List.length_eq_two.mp hlength
    rw [operandPair_pair] at h
    obtain ⟨first, hleft, hrest⟩ := Outcome.bind_ok_iff.mp h
    obtain ⟨second, hright, -⟩ := Outcome.map_ok_iff.mp hrest
    refine ⟨rfl, List.forall_mem_cons.mpr ⟨?_, List.forall_mem_singleton.mpr ?_⟩⟩
    · exact left.operand_exists_ok_iff.mp ⟨first, hleft⟩
    · exact right.operand_exists_ok_iff.mp ⟨second, hright⟩
  · rintro ⟨hlength, hsupported⟩
    obtain ⟨left, right, rfl⟩ := List.length_eq_two.mp hlength
    obtain ⟨hleft, hright⟩ := List.forall_mem_cons.mp hsupported
    obtain ⟨first, hfirst⟩ := left.operand_exists_ok_iff.mpr hleft
    obtain ⟨second, hsecond⟩ :=
      right.operand_exists_ok_iff.mpr (List.forall_mem_singleton.mp hright)
    rw [operandPair_pair, hfirst, hsecond]
    exact ⟨_, rfl⟩

theorem operandPair_error_iff {operands : List Expression} {refusal : Refusal} :
    operandPair operands = .error refusal ↔ OperandsFault operands refusal := by
  constructor
  · intro h
    by_cases hlength : operands.length = 2
    · obtain ⟨left, right, rfl⟩ := List.length_eq_two.mp hlength
      rw [operandPair_pair] at h
      -- Either the left operand fails, or it is supported and the right one fails.
      rcases Outcome.bind_error_iff.mp h with hleft | ⟨first, hfirst, hrest⟩
      · exact .left (Expression.operand_error_iff.mp hleft)
      · have hleft := left.operand_exists_ok_iff.mp ⟨first, hfirst⟩
        exact .right hleft (Expression.operand_error_iff.mp (Outcome.map_error_iff.mp hrest))
    · rw [operandPair_count hlength] at h
      cases h
      exact .count hlength
  · intro h
    cases h with
    | count h => exact operandPair_count h
    | left h =>
        rw [operandPair_pair, Expression.operand_error_iff.mpr h]
        rfl
    | right hleft h =>
        obtain ⟨first, hfirst⟩ := (Expression.operand_exists_ok_iff _).mpr hleft
        rw [operandPair_pair, hfirst, Expression.operand_error_iff.mpr h]
        rfl

/-! ## Segments -/

theorem Segment.exists_ok_iff (segment : Segment) :
    (∃ token, segment.token = .ok token) ↔ segment.expression.Supported := by
  obtain ⟨body, minOccurs, maxOccurs⟩ := segment
  cases body with
  | simple expression =>
      exact Outcome.exists_map_ok_iff.trans (SimpleExpression.exists_ok_iff expression)
  | and operands => exact Outcome.exists_map_ok_iff.trans (operandPair_exists_ok_iff operands)
  | or operands => exact Outcome.exists_map_ok_iff.trans (operandPair_exists_ok_iff operands)
  | wildcard => exact ⟨fun _ => trivial, fun _ => ⟨_, rfl⟩⟩
  | _ =>
      constructor
      · rintro ⟨token, h⟩
        cases h
      · intro h
        cases h

theorem Segment.error_iff {segment : Segment} {refusal : Refusal} :
    segment.token = .error refusal ↔ segment.expression.Fault refusal := by
  obtain ⟨body, minOccurs, maxOccurs⟩ := segment
  constructor
  · intro h
    cases body with
    | simple expression =>
        exact .simple (SimpleExpression.error_iff.mp (Outcome.map_error_iff.mp h))
    | and operands => exact .and (operandPair_error_iff.mp (Outcome.map_error_iff.mp h))
    | or operands => exact .or (operandPair_error_iff.mp (Outcome.map_error_iff.mp h))
    | not operand =>
        cases h
        exact .not operand
    | group expression =>
        cases h
        exact .group expression
    | wildcard => cases h
  · intro h
    cases h with
    | not operand => rfl
    | group expression => rfl
    | simple h => exact Outcome.map_error_iff.mpr (SimpleExpression.error_iff.mpr h)
    | and h => exact Outcome.map_error_iff.mpr (operandPair_error_iff.mpr h)
    | or h => exact Outcome.map_error_iff.mpr (operandPair_error_iff.mpr h)

/-! ## Queries -/

/-- A query becomes a corpus query exactly if it is supported, and is refused exactly for its first
fault. -/
theorem toCqp_accepts_supported (node : Node) :
    ((∃ text, node.toCqp.outcome = .ok text) ↔ node.Supported) ∧
      ∀ refusal, node.toCqp.outcome = .error refusal ↔ node.Fault refusal := by
  rw [Node.outcome_toCqp]
  by_cases hroot : node.IsRoot
  -- A sequence or a segment is a traversal of its segments.
  · rw [if_pos hroot]
    constructor
    · rw [Outcome.exists_map_ok_iff, Outcome.exists_mapM_ok_iff]
      simp only [Segment.exists_ok_iff, Node.Supported, hroot, true_and]
    · intro refusal
      rw [Outcome.map_error_iff, Outcome.mapM_error_iff]
      constructor
      · rintro ⟨before, segment, after, hsplit, hbefore, h⟩
        refine .segment hsplit (fun earlier hmem => ?_) (Segment.error_iff.mp h)
        exact earlier.exists_ok_iff.mp (hbefore earlier hmem)
      · intro h
        cases h with
        | root h => exact absurd hroot h
        | segment hsplit hbefore h =>
            refine ⟨_, _, _, hsplit, fun earlier hmem => ?_, Segment.error_iff.mpr h⟩
            exact earlier.exists_ok_iff.mpr (hbefore earlier hmem)
  -- Any other root is the only fault.
  · rw [if_neg hroot]
    constructor
    · constructor
      · rintro ⟨text, h⟩
        cases h
      · intro h
        exact absurd h.1 hroot
    · intro refusal
      constructor
      · intro h
        cases h
        exact .root hroot
      · intro h
        cases h with
        | root h => rfl
        | segment hsplit hbefore h =>
            -- Only sequences and segments have segments at all.
            cases node with
            | sequence children => exact absurd (Or.inl rfl) hroot
            | segment body => exact absurd (Or.inr rfl) hroot
            | _ => simp [Node.segments] at hsplit

end CorpusQuery.Fcs
