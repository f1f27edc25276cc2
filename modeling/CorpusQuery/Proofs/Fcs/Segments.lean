/-
  CorpusQuery.Proofs.Fcs.Segments

  The segments that a query is made of, and the corpus query as the token
  patterns of these segments one after the other. The log plays no part here:
  `Node.outcome_toCqp` turns a translation into a traversal of the segments,
  and everything else about outcomes is proved of that traversal.
-/
import CorpusQuery.Fcs.Tokens
import CorpusQuery.Proofs.Outcome

namespace CorpusQuery.Fcs

/-! ## Segments of a query -/

/-- The segment that a node is, if it is one. -/
def Node.segment? : Node → Option Segment
  | .segment body => some body
  | _ => none

/-- The segments that count: the query itself, or those among the children of a sequence. -/
def Node.segments : Node → List Segment
  | .segment body => [body]
  | .sequence children => children.filterMap Node.segment?
  | _ => []

/-- Only sequences and segments are translated at all. -/
def Node.IsRoot (node : Node) : Prop :=
  node.kind = .sequence ∨ node.kind = .segment

instance (node : Node) : Decidable node.IsRoot :=
  inferInstanceAs (Decidable (_ ∨ _))

theorem Node.segment?_eq_none_iff {child : Node} :
    child.segment? = none ↔ child.kind ≠ .segment := by
  cases child <;> simp [Node.segment?, Node.kind]

theorem Node.eq_segment_of_segment? {child : Node} {body : Segment}
    (h : child.segment? = some body) : child = .segment body := by
  cases child with
  | segment other => exact congrArg Node.segment (Option.some.inj h)
  | _ => cases h

/-! ## The corpus query as a traversal of the segments -/

@[simp] theorem outcome_tokenReported (segment : Segment) :
    segment.tokenReported.outcome = segment.token := by
  simp only [Segment.tokenReported, Logged.outcome_bind, Logged.outcome_ofExcept,
    Logged.outcome_report, Logged.outcome_pure]
  cases segment.token with
  | ok token => rfl
  | error error => rfl

theorem childTokens_segment (body : Segment) (rest : List Node) :
    (childTokens (.segment body :: rest)).outcome =
      body.token.bind fun token => (childTokens rest).outcome.map (token :: ·) := by
  rw [childTokens, Logged.outcome_bind, outcome_tokenReported]
  refine congrArg (Except.bind body.token) (funext fun token => ?_)
  rw [Logged.outcome_bind]
  cases (childTokens rest).outcome with
  | ok later => rfl
  | error error => rfl

/-- A child that is no segment is reported. -/
theorem childTokens_of_segment?_eq_none {child : Node} (h : child.segment? = none)
    (rest : List Node) :
    childTokens (child :: rest) =
      (do Logged.report (.skippedChild child.kind); childTokens rest) := by
  cases child with
  | segment body => cases h
  | _ => rfl

/-- It changes nothing but the log. -/
theorem childTokens_skipped {child : Node} (h : child.segment? = none) (rest : List Node) :
    (childTokens (child :: rest)).outcome = (childTokens rest).outcome := by
  rw [childTokens_of_segment?_eq_none h, Logged.outcome_bind, Logged.outcome_report]
  rfl

theorem outcome_childTokens (children : List Node) :
    (childTokens children).outcome
      = (children.filterMap Node.segment?).mapM Segment.token := by
  induction children with
  | nil => rfl
  | cons child rest ih =>
      cases hchild : child.segment? with
      | none => rw [childTokens_skipped hchild, ih, List.filterMap_cons_none hchild]
      | some body =>
          rw [List.filterMap_cons_some hchild, List.mapM_cons, Node.eq_segment_of_segment? hchild,
            childTokens_segment, ih]
          rfl

theorem outcome_tokens (node : Node) :
    node.tokens.outcome =
      if node.IsRoot then node.segments.mapM Segment.token else .error (.ofShape .root) := by
  cases node with
  | sequence children => exact outcome_childTokens children
  | segment body =>
      simp only [Node.tokens, Logged.outcome_bind, outcome_tokenReported, Logged.outcome_pure,
        Node.segments, List.mapM_cons, List.mapM_nil]
      rfl
  | disjunction children => rfl
  | group query minOccurs maxOccurs => rfl
  | withWithin query scope => rfl

/-- A translation ends with the text of the token patterns of the segments, or with the first error
among them; any other root is refused. -/
theorem Node.outcome_toCqp (node : Node) :
    node.toCqp.outcome =
      if node.IsRoot then (node.segments.mapM Segment.token).map Cqp.render
      else .error (.ofShape .root) := by
  have htext : node.toCqp.outcome = node.tokens.outcome.map Cqp.render := by
    simp only [Node.toCqp, Logged.outcome_bind, Logged.outcome_report, Logged.outcome_pure]
    cases node.tokens.outcome with
    | ok tokens => rfl
    | error error => rfl
  rw [htext, outcome_tokens]
  split
  · rfl
  · rfl

end CorpusQuery.Fcs
