/-
  CorpusQuery.Proofs.Fcs.Sequences

  Sequences of FCS-QL nodes, translated piece by piece. A sequence that is cut
  in two is translated as its first part and then its second part: the texts
  follow one another, the warnings follow one another, and an error in the
  first part leaves the second one unread. All of it comes from what one child
  adds (`Node.contribution`) and from the laws of reported computations.
-/
import CorpusQuery.Proofs.Fcs.Segments
import Mathlib.Data.List.Basic

namespace CorpusQuery.Fcs

/-! ## What one child adds -/

/-- What a sequence sees of a child: its kind, and the segment if it is one. -/
def Node.outline (child : Node) : NodeKind × Option Segment :=
  (child.kind, child.segment?)

/-- What a child adds to its sequence: the token pattern of a segment, or a report and no pattern
for any other child. -/
def Node.contribution (child : Node) : Logged Refusal (List Cqp.Token) :=
  match child.segment? with
  | some body => do
    let token ← body.tokenReported
    return [token]
  | none => do
    Logged.report (.skippedChild child.kind)
    return []

/-- The child is a segment that has no translation of its own. -/
def Node.isFaulty (child : Node) : Bool :=
  child.kind = .segment && !child.toCqp.outcome.isOk

/-- The warnings for children that are no segments: one each, which names the kind. -/
def skipWarnings (children : List Node) : List Log.Event :=
  (children.filter fun child => child.kind ≠ .segment).map fun child => .skippedChild child.kind

/-- Two queries are translated alike: they end alike with the same warnings, and all that is
reported after the event that shows the query is the same. -/
structure Node.TranslatedAlike (first second : Node) : Prop where
  outcome : first.toCqp.outcome = second.toCqp.outcome
  warnings : first.toCqp.warnings = second.toCqp.warnings
  later : first.toCqp.events.tail = second.toCqp.events.tail

/-- The children before the first segment at fault; all of them if there is none. -/
def beforeFault (children : List Node) : List Node :=
  children.takeWhile fun child => !child.isFaulty

/-- A child adds the same whatever it contains, unless it is a segment. -/
theorem Node.contribution_congr {first second : Node} (h : first.outline = second.outline) :
    first.contribution = second.contribution := by
  have hkind : first.kind = second.kind := congrArg Prod.fst h
  have hsegment : first.segment? = second.segment? := congrArg Prod.snd h
  rw [Node.contribution, Node.contribution, hkind, hsegment]

theorem Node.contribution_segment (body : Segment) :
    (Node.segment body).contribution = (do let token ← body.tokenReported; return [token]) := rfl

theorem Node.contribution_skipped {child : Node} (h : child.segment? = none) :
    child.contribution = ⟨[.skippedChild child.kind], .ok []⟩ := by
  rw [Node.contribution, h]
  rfl

/-- A segment by itself fails as its token pattern does. -/
theorem Node.isFaulty_segment (body : Segment) :
    (Node.segment body).isFaulty = !body.token.isOk := by
  have hroot : (Node.segment body).IsRoot := Or.inr rfl
  have houtcome := Node.outcome_toCqp (.segment body)
  rw [if_pos hroot, Node.segments, List.mapM_cons, List.mapM_nil] at houtcome
  rw [Node.isFaulty, houtcome]
  cases body.token with
  | ok token => rfl
  | error refusal => rfl

theorem Node.isFaulty_skipped {child : Node} (h : child.segment? = none) :
    child.isFaulty = false := by
  rw [Node.isFaulty, decide_eq_false (Node.segment?_eq_none_iff.mp h), Bool.false_and]

/-! ## One child after another -/

theorem childTokens_nil : childTokens [] = (pure [] : Logged Refusal (List Cqp.Token)) := rfl

/-- One step along a sequence: what the child adds, in front of what the others add. -/
theorem childTokens_cons (child : Node) (rest : List Node) :
    childTokens (child :: rest) = do
      let own ← child.contribution
      let later ← childTokens rest
      return own ++ later := by
  cases hchild : child.segment? with
  | some body =>
      rw [Node.eq_segment_of_segment? hchild, Node.contribution_segment, bind_assoc]
      simp only [pure_bind, List.singleton_append]
      rw [childTokens]
  | none =>
      rw [childTokens_of_segment?_eq_none hchild, Node.contribution, hchild]
      simp only [bind_assoc, pure_bind, List.nil_append, bind_pure]

/-- A sequence in two parts: the second part is read only if the first one has no error. -/
theorem childTokens_append (xs ys : List Node) :
    childTokens (xs ++ ys) = do
      let first ← childTokens xs
      let later ← childTokens ys
      return first ++ later := by
  induction xs with
  | nil => simp only [List.nil_append, childTokens_nil, pure_bind, bind_pure]
  | cons child rest ih =>
      rw [List.cons_append, childTokens_cons, childTokens_cons, ih]
      simp only [bind_assoc, pure_bind, List.append_assoc]

/-- A sequence is translated by the outlines of its children alone. -/
theorem childTokens_congr {xs ys : List Node} (h : xs.map Node.outline = ys.map Node.outline) :
    childTokens xs = childTokens ys := by
  induction xs generalizing ys with
  | nil =>
      have hnil : ys = [] := List.map_eq_nil_iff.mp h.symm
      rw [hnil]
  | cons child rest ih =>
      obtain ⟨other, others, rfl, hother, hothers⟩ := List.map_eq_cons_iff.mp h.symm
      have hown : child.contribution = other.contribution := Node.contribution_congr hother.symm
      have hrest : childTokens rest = childTokens others := ih hothers.symm
      rw [childTokens_cons, childTokens_cons, hown, hrest]

/-! ## Warnings of a sequence -/

theorem skipWarnings_segment (body : Segment) (rest : List Node) :
    skipWarnings (.segment body :: rest) = skipWarnings rest := rfl

theorem skipWarnings_skipped {child : Node} (h : child.segment? = none) (rest : List Node) :
    skipWarnings (child :: rest) = .skippedChild child.kind :: skipWarnings rest := by
  have hkind : child.kind ≠ .segment := Node.segment?_eq_none_iff.mp h
  simp only [skipWarnings, List.filter_cons, decide_eq_true hkind, if_true, List.map_cons]

theorem beforeFault_cons_of_faulty {child : Node} (h : child.isFaulty = true)
    (rest : List Node) : beforeFault (child :: rest) = [] := by
  simp only [beforeFault, List.takeWhile_cons, h, Bool.not_true, Bool.false_eq_true, if_false]

theorem beforeFault_cons_of_sound {child : Node} (h : child.isFaulty = false)
    (rest : List Node) : beforeFault (child :: rest) = child :: beforeFault rest := by
  simp only [beforeFault, List.takeWhile_cons, h, Bool.not_false, if_true]

theorem warnings_contribution_segment (body : Segment) :
    (Node.segment body).contribution.warnings = [] := by
  have hreported : body.tokenReported.warnings = [] := by
    rw [Segment.tokenReported, Logged.warnings_bind, Logged.outcome_ofExcept]
    cases body.token with
    | ok token => rfl
    | error refusal => rfl
  rw [Node.contribution_segment, Logged.warnings_bind_pure, hreported]

theorem outcome_contribution_segment (body : Segment) :
    (Node.segment body).contribution.outcome = body.token.map fun token => [token] := by
  rw [Node.contribution_segment, Logged.outcome_bind, outcome_tokenReported]
  rfl

/-- The step lemma for warnings: those of the child, and those of the others if it has no error. -/
theorem warnings_childTokens_cons (child : Node) (rest : List Node) :
    (childTokens (child :: rest)).warnings = child.contribution.warnings ++
      match child.contribution.outcome with
      | .ok _ => (childTokens rest).warnings
      | .error _ => [] := by
  rw [childTokens_cons, Logged.warnings_bind]
  cases child.contribution.outcome with
  | ok own => simp only [Logged.warnings_bind_pure]
  | error refusal => rfl

/-- The warnings of a sequence are those for the children before the first segment at fault. -/
theorem warnings_childTokens (children : List Node) :
    (childTokens children).warnings = skipWarnings (beforeFault children) := by
  induction children with
  | nil => rfl
  | cons child rest ih =>
      rw [warnings_childTokens_cons]
      cases hchild : child.segment? with
      | none =>
          have hsound : child.isFaulty = false := Node.isFaulty_skipped hchild
          rw [beforeFault_cons_of_sound hsound, skipWarnings_skipped hchild,
            Node.contribution_skipped hchild, ← ih]
          rfl
      | some body =>
          rw [Node.eq_segment_of_segment? hchild, warnings_contribution_segment,
            outcome_contribution_segment]
          cases htoken : body.token with
          | ok token =>
              have hsound : (Node.segment body).isFaulty = false := by
                rw [Node.isFaulty_segment, htoken]
                rfl
              rw [beforeFault_cons_of_sound hsound, skipWarnings_segment, ← ih]
              rfl
          | error refusal =>
              -- the segment at fault ends the sequence
              have hfaulty : (Node.segment body).isFaulty = true := by
                rw [Node.isFaulty_segment, htoken]
                rfl
              rw [beforeFault_cons_of_faulty hfaulty]
              rfl

/-! ## Whole sequences -/

/-- The frame around a translation shows nothing of itself. -/
theorem Node.answer_sequence (children : List Node) :
    (Node.sequence children).toCqp.answer
      = ((childTokens children).outcome.map Cqp.render, (childTokens children).warnings) := by
  have houtcome : (Node.sequence children).toCqp.outcome
      = (childTokens children).outcome.map Cqp.render := by
    simp only [Node.toCqp, Node.tokens, Logged.outcome_bind, Logged.outcome_report,
      Logged.outcome_pure]
    rfl
  have hwarnings : (Node.sequence children).toCqp.warnings = (childTokens children).warnings := by
    simp only [Node.toCqp, Node.tokens, Logged.warnings_bind, Logged.warnings_report,
      Logged.outcome_report]
    cases (childTokens children).outcome with
    | ok tokens => exact List.append_nil _
    | error refusal => exact List.append_nil _
  rw [Logged.answer, houtcome, hwarnings]

/-- A translation shows the query and goes on with its token patterns alone. -/
theorem Node.TranslatedAlike.of_tokens {first second : Node} (h : first.tokens = second.tokens) :
    first.TranslatedAlike second := by
  obtain ⟨rest, hrest⟩ : ∃ rest : Logged Refusal String, ∀ node : Node,
      node.tokens = second.tokens → node.toCqp = ⟨.fcsBegun node :: rest.events, rest.outcome⟩ := by
    refine ⟨second.tokens >>= fun tokens => do
      Logged.report (.fcsDone (Cqp.render tokens))
      return Cqp.render tokens, fun node hnode => ?_⟩
    rw [Node.toCqp, hnode, Logged.report_bind]
  constructor
  · rw [hrest first h, hrest second rfl]
  · -- the event that shows the query is no warning
    rw [hrest first h, hrest second rfl]
    rfl
  · rw [hrest first h, hrest second rfl]
    rfl

/-- A root segment is translated as the sequence of that segment alone. -/
theorem Node.translatedAlike_segment (body : Segment) :
    (Node.segment body).TranslatedAlike (.sequence [.segment body]) := by
  refine .of_tokens ?_
  show (do let token ← body.tokenReported; return [token]) = childTokens [.segment body]
  rw [childTokens_cons, childTokens_nil, Node.contribution_segment]
  simp only [bind_assoc, pure_bind, List.append_nil]

/-- Children that are no segments change nothing but the log. -/
theorem outcome_childTokens_filter (children : List Node) :
    (childTokens (children.filter fun child => child.kind = .segment)).outcome
      = (childTokens children).outcome := by
  have hsegments : (children.filter fun child => child.kind = .segment).filterMap Node.segment?
      = children.filterMap Node.segment? := by
    rw [List.filterMap_filter]
    refine List.filterMap_congr fun child _ => ?_
    cases child <;> rfl
  rw [outcome_childTokens, outcome_childTokens, hsegments]

/-- A sequence has a translation exactly if none of its segments is at fault. -/
theorem exists_ok_childTokens_iff (children : List Node) :
    (∃ tokens, (childTokens children).outcome = .ok tokens) ↔
      ∀ child ∈ children, child.isFaulty = false := by
  rw [outcome_childTokens, Outcome.exists_mapM_ok_iff]
  constructor
  · intro h child hmem
    cases hchild : child.segment? with
    | none => exact Node.isFaulty_skipped hchild
    | some body =>
        obtain ⟨token, htoken⟩ := h body (List.mem_filterMap.mpr ⟨child, hmem, hchild⟩)
        rw [Node.eq_segment_of_segment? hchild, Node.isFaulty_segment, htoken]
        rfl
  · intro h body hbody
    obtain ⟨child, hmem, hchild⟩ := List.mem_filterMap.mp hbody
    have hsound := h child hmem
    rw [Node.eq_segment_of_segment? hchild, Node.isFaulty_segment] at hsound
    cases htoken : body.token with
    | ok token => exact ⟨token, rfl⟩
    | error refusal => rw [htoken] at hsound; cases hsound

/-- Sequences are translated as they are put together. Cut in two at any place, a sequence answers
as its first part and then its second part do. Its text is that of its segments alone, and its
warnings name the kinds of the other children before the first segment at fault, whatever these
contain. -/
theorem toCqp_sequence_append :
    (∀ xs ys : List Node,
      let first := (Node.sequence xs).toCqp
      let later := (Node.sequence ys).toCqp
      (Node.sequence (xs ++ ys)).toCqp.answer =
        match first.outcome, later.outcome with
        | .error refusal, _ => (.error refusal, first.warnings)
        | .ok _, .error refusal => (.error refusal, first.warnings ++ later.warnings)
        | .ok text, .ok more => (.ok (text ++ more), first.warnings ++ later.warnings)) ∧
    (∀ children : List Node,
      (Node.sequence children).toCqp.outcome
        = (Node.sequence (children.filter fun child => child.kind = .segment)).toCqp.outcome) ∧
    (∀ body : Segment, (Node.segment body).TranslatedAlike (.sequence [.segment body])) ∧
    (∀ children : List Node,
      ((∃ text, (Node.sequence children).toCqp.outcome = .ok text) ↔
        ∀ child ∈ children, child.isFaulty = false) ∧
      (Node.sequence children).toCqp.warnings = skipWarnings (beforeFault children)) ∧
    ∀ xs ys : List Node, xs.map Node.outline = ys.map Node.outline →
      (Node.sequence xs).TranslatedAlike (.sequence ys) := by
  have houtcome : ∀ children : List Node, (Node.sequence children).toCqp.outcome
      = (childTokens children).outcome.map Cqp.render :=
    fun children => congrArg Prod.fst (Node.answer_sequence children)
  have hwarnings : ∀ children : List Node, (Node.sequence children).toCqp.warnings
      = (childTokens children).warnings :=
    fun children => congrArg Prod.snd (Node.answer_sequence children)
  refine ⟨fun xs ys => ?_, fun children => ?_, Node.translatedAlike_segment,
    fun children => ⟨?_, ?_⟩, fun xs ys h => ?_⟩
  · -- The law of the traversal, read off for each way in which the two parts may end.
    simp only [houtcome, hwarnings]
    rw [Node.answer_sequence, childTokens_append, Logged.outcome_bind, Logged.warnings_bind]
    cases (childTokens xs).outcome with
    | error refusal => exact congrArg (Prod.mk _) (List.append_nil _)
    | ok tokens =>
        simp only [Except.bind, Logged.outcome_bind, Logged.warnings_bind_pure]
        cases (childTokens ys).outcome with
        | error refusal => rfl
        | ok more =>
            have htext := Cqp.render_append tokens more
            exact congrArg (fun text => (Except.ok text, _)) htext
  · rw [houtcome, houtcome, outcome_childTokens_filter]
  · rw [houtcome, Outcome.exists_map_ok_iff, exists_ok_childTokens_iff]
  · rw [hwarnings, warnings_childTokens]
  · exact .of_tokens (childTokens_congr h)

/-- Groups and disjunctions with other contents: the answer stays the same, and the segment at fault
hides what stands behind it. -/
theorem toCqp_sequence_append_hollow :
    let word : Node := .segment (.once (.simple (.of "word" .equals "en")))
    let faulty : Node := .segment (.once (.simple (.of "orth" .equals "en")))
    let full : List Node := [.group faulty 5 2, word, .disjunction [word, faulty], faulty,
      .withWithin word .turn]
    let hollow : List Node := [.group (.sequence []) 1 1, word, .disjunction [], faulty,
      .withWithin (.sequence []) .text]
    full.map Node.outline = hollow.map Node.outline ∧
      (Node.sequence full).TranslatedAlike (.sequence hollow) ∧
      (Node.sequence full).toCqp.answer
        = (.error .unsupportedExpression, [.skippedChild .group, .skippedChild .disjunction]) := by
  intro word faulty full hollow
  have houtline : full.map Node.outline = hollow.map Node.outline := rfl
  have hsame := toCqp_sequence_append.2.2.2.2 full hollow houtline
  exact ⟨houtline, hsame, rfl⟩

end CorpusQuery.Fcs
