/-
  CorpusQuery.Proofs.Fcs.Denotation

  What an FCS-QL query asks for, apart from how it is written down: one entry
  for each segment that counts. An accepted query denotes a list of entries,
  and its corpus query is a function of that list alone (`Node.entries_of_ok`).
-/
import CorpusQuery.Proofs.Fcs.Segments

namespace CorpusQuery.Fcs

/-! ## Entries -/

/-- What a simple expression asks of a token. The value is a regular expression, or for a part of
speech the tag in capitals. -/
structure Term where
  layer : Cqp.Attribute
  operator : Operator
  value : String
  flags : FlagSet
  deriving DecidableEq, Repr

/-- What a segment asks for: any tokens, tokens of one kind, or one token of two kinds. -/
inductive Entry where
  | any (minOccurs maxOccurs : UInt32)
  | single (term : Term) (minOccurs maxOccurs : UInt32)
  | both (left right : Term)
  | either (left right : Term)
  deriving DecidableEq, Repr

/-- The set without the flag that asks for what holds anyway. -/
def FlagSet.withoutDefault (flags : FlagSet) : FlagSet :=
  { flags with caseSensitive := false }

/-- The term of a simple expression on a known layer. Flags do not count for a part of speech. -/
def SimpleExpression.term? (expression : SimpleExpression) : Option Term :=
  match expression.qualifier, attributeOf? expression.identifier with
  | none, some .pos =>
    some ⟨.pos, expression.operator, String.ofList (Text.upper expression.regex.toList), .empty⟩
  | none, some layer =>
    some ⟨layer, expression.operator, expression.regex, expression.flags.withoutDefault⟩
  | _, _ => none

/-- The entry of a segment. Bounds do not count for a boolean expression. -/
def Segment.entry? (segment : Segment) : Option Entry :=
  match segment.expression with
  | .wildcard => some (.any segment.minOccurs segment.maxOccurs)
  | .simple expression =>
    expression.term?.map fun term => .single term segment.minOccurs segment.maxOccurs
  | .and [.simple left, .simple right] => do return .both (← left.term?) (← right.term?)
  | .or [.simple left, .simple right] => do return .either (← left.term?) (← right.term?)
  | _ => none

/-- The entries of a query, one for each segment that counts. -/
def Node.entries? (node : Node) : Option (List Entry) :=
  node.segments.mapM Segment.entry?

/-! ## Quotes -/

/-- The simple expression that an expression is, if it is one. -/
def Expression.simple? : Expression → Option SimpleExpression
  | .simple expression => some expression
  | _ => none

/-- The simple expressions that a segment is made of. -/
def Segment.simples (segment : Segment) : List SimpleExpression :=
  match segment.expression with
  | .simple expression => [expression]
  | .and operands => operands.filterMap Expression.simple?
  | .or operands => operands.filterMap Expression.simple?
  | _ => []

/-- The regular expression of a word or a lemma holds no single quote. -/
def SimpleExpression.QuoteFree (expression : SimpleExpression) : Prop :=
  expression.identifier ∈ ["text", "token", "word", "lemma"] → '\'' ∉ expression.regex.toList

/-- No word or lemma that counts is compared with a regular expression that holds a single quote;
what the other parts of the query hold does not matter. -/
def Node.QuoteFree (node : Node) : Prop :=
  ∀ segment ∈ node.segments, ∀ expression ∈ segment.simples, expression.QuoteFree

instance (expression : SimpleExpression) : Decidable expression.QuoteFree :=
  inferInstanceAs (Decidable (_ ∈ _ → _))

instance (node : Node) : Decidable node.QuoteFree :=
  inferInstanceAs (Decidable (∀ segment ∈ node.segments, ∀ expression ∈ segment.simples,
    expression.QuoteFree))

/-! ## Corpus queries of entries -/

/-- The constraint that says what a term asks. -/
def Term.constraint (term : Term) : Cqp.Constraint :=
  match term.layer with
  | .word => .word term.operator.negates term.value term.flags.toCqp
  | .baseForm => .baseForm term.operator.negates term.value term.flags.toCqp
  | .pos =>
    .pos term.operator.negates
      (((UdTag.ofName? term.value).elim [] UdTag.candidates).map SucTag.name)

/-- The token pattern that says what an entry asks. -/
def Entry.token : Entry → Cqp.Token
  | .any minOccurs maxOccurs => .any ⟨minOccurs, maxOccurs⟩
  | .single term minOccurs maxOccurs => .repeated term.constraint ⟨minOccurs, maxOccurs⟩
  | .both left right => .both left.constraint right.constraint
  | .either left right => .either left.constraint right.constraint

/-- A term whose text can be told from what follows it: no quote in a regular expression, no flag
that is not written, and a tag of the table. -/
def Term.Legible (term : Term) : Prop :=
  match term.layer with
  | .pos => (∃ tag : UdTag, tag.name = term.value) ∧ term.flags = .empty
  | _ => '\'' ∉ term.value.toList ∧ term.flags.caseSensitive = false

/-- An entry whose terms are legible. -/
def Entry.Legible : Entry → Prop
  | .any _ _ => True
  | .single term _ _ => term.Legible
  | .both left right => left.Legible ∧ right.Legible
  | .either left right => left.Legible ∧ right.Legible

/-! ## Accepted queries denote entries -/

/-- A layer other than that of parts of speech has one of four names. -/
theorem mem_names_of_attributeOf? {identifier : String} {layer : Cqp.Attribute}
    (h : attributeOf? identifier = some layer) (hlayer : layer ≠ .pos) :
    identifier ∈ ["text", "token", "word", "lemma"] := by
  have hmem : identifier ∈ ["text", "token", "word", "lemma"] ++ ["pos"] :=
    mem_layerNames_of_attributeOf? h
  rcases List.mem_append.mp hmem with hname | hpos
  · exact hname
  · rw [attributeOf?_eq_pos_iff.mpr (List.mem_singleton.mp hpos)] at h
    exact absurd (Option.some.inj h).symm hlayer

/-- The constraint of a simple expression is that of the term it denotes. -/
theorem SimpleExpression.term_of_ok {expression : SimpleExpression} {constraint : Cqp.Constraint}
    (h : expression.constraint = .ok constraint) :
    ∃ term, expression.term? = some term ∧ term.constraint = constraint ∧
      (expression.QuoteFree → term.Legible) := by
  unfold SimpleExpression.constraint at h
  unfold SimpleExpression.term?
  cases hqualifier : expression.qualifier with
  | some qualifier => simp [hqualifier] at h
  | none =>
      cases hlayer : attributeOf? expression.identifier with
      | none => simp [hqualifier, hlayer] at h
      | some layer =>
          cases layer with
          | word =>
              simp only [hqualifier, hlayer, Except.ok.injEq] at h
              refine ⟨_, rfl, h, fun hquote => ⟨?_, rfl⟩⟩
              exact hquote (mem_names_of_attributeOf? hlayer (by decide))
          | baseForm =>
              simp only [hqualifier, hlayer, Except.ok.injEq] at h
              refine ⟨_, rfl, h, fun hquote => ⟨?_, rfl⟩⟩
              exact hquote (mem_names_of_attributeOf? hlayer (by decide))
          | pos =>
              -- The tag is known, so that its capitals are the name of a universal tag.
              simp only [hqualifier, hlayer, PartOfSpeech.sucCandidates,
                PartOfSpeech.udOfText?] at h
              cases htag : UdTag.ofName? (String.ofList (Text.upper expression.regex.toList)) with
              | none => simp [htag, Except.map] at h
              | some tag =>
                  simp only [htag, Except.map, Except.ok.injEq] at h
                  refine ⟨_, rfl, ?_, fun _ => ⟨⟨tag, UdTag.name_of_ofName? htag⟩, rfl⟩⟩
                  rw [← h]
                  simp only [Term.constraint, htag, Option.elim_some]

theorem operandConstraint_ok {operand : Expression} {constraint : Cqp.Constraint}
    (h : operand.operandConstraint = .ok constraint) :
    ∃ expression, operand = .simple expression ∧ expression.constraint = .ok constraint := by
  cases operand with
  | simple expression => exact ⟨expression, rfl, h⟩
  | _ => cases h

/-- Two operands that make a pair of constraints are simple expressions and denote terms. -/
theorem operandPair_ok {operands : List Expression} {pair : Cqp.Constraint × Cqp.Constraint}
    (h : operandPair operands = .ok pair) :
    ∃ left right first second, operands = [.simple left, .simple right] ∧
      left.term? = some first ∧ right.term? = some second ∧
      pair = (first.constraint, second.constraint) ∧
      ((∀ expression ∈ operands.filterMap Expression.simple?, expression.QuoteFree) →
        first.Legible ∧ second.Legible) := by
  unfold operandPair at h
  split at h
  · obtain ⟨first, hfirst, hrest⟩ := Outcome.bind_ok_iff.mp h
    obtain ⟨second, hsecond, hpair⟩ := Outcome.bind_ok_iff.mp hrest
    obtain ⟨left, rfl, hleft⟩ := operandConstraint_ok hfirst
    obtain ⟨right, rfl, hright⟩ := operandConstraint_ok hsecond
    obtain ⟨leftTerm, hleftTerm, rfl, hleftLegible⟩ := SimpleExpression.term_of_ok hleft
    obtain ⟨rightTerm, hrightTerm, rfl, hrightLegible⟩ := SimpleExpression.term_of_ok hright
    refine ⟨left, right, leftTerm, rightTerm, rfl, hleftTerm, hrightTerm,
      (Except.ok.inj hpair).symm, fun hquote => ?_⟩
    -- Both operands are simple, so that none is passed over in the assumption on quotes.
    have hmem : [left, right] = [Expression.simple left, .simple right].filterMap
        Expression.simple? := rfl
    rw [← hmem] at hquote
    exact ⟨hleftLegible (hquote left (by simp)), hrightLegible (hquote right (by simp))⟩
  · cases h

/-- The token pattern of a segment is that of the entry it denotes. -/
theorem Segment.entry_of_ok {segment : Segment} {token : Cqp.Token}
    (h : segment.token = .ok token) :
    ∃ entry, segment.entry? = some entry ∧ entry.token = token ∧
      ((∀ expression ∈ segment.simples, expression.QuoteFree) → entry.Legible) := by
  obtain ⟨body, minOccurs, maxOccurs⟩ := segment
  cases body with
  | simple expression =>
      obtain ⟨constraint, hconstraint, rfl⟩ := Outcome.map_ok_iff.mp h
      obtain ⟨term, hterm, rfl, hlegible⟩ := SimpleExpression.term_of_ok hconstraint
      refine ⟨.single term minOccurs maxOccurs, ?_, rfl, fun hquote => ?_⟩
      · simp only [Segment.entry?, hterm, Option.map_some]
      · exact hlegible (hquote expression (List.mem_singleton.mpr rfl))
  | and operands =>
      obtain ⟨pair, hpair, rfl⟩ := Outcome.map_ok_iff.mp h
      obtain ⟨left, right, first, second, hoperands, hfirst, hsecond, rfl, hlegible⟩ :=
        operandPair_ok hpair
      refine ⟨.both first second, ?_, rfl, hlegible⟩
      simp only [Segment.entry?, hoperands, hfirst, hsecond]
      rfl
  | or operands =>
      obtain ⟨pair, hpair, rfl⟩ := Outcome.map_ok_iff.mp h
      obtain ⟨left, right, first, second, hoperands, hfirst, hsecond, rfl, hlegible⟩ :=
        operandPair_ok hpair
      refine ⟨.either first second, ?_, rfl, hlegible⟩
      simp only [Segment.entry?, hoperands, hfirst, hsecond]
      rfl
  | not operand => cases h
  | group expression => cases h
  | wildcard =>
      rw [← Except.ok.inj h]
      exact ⟨.any minOccurs maxOccurs, rfl, rfl, fun _ => trivial⟩

theorem entries_of_mapM_ok {segments : List Segment} {tokens : List Cqp.Token}
    (h : segments.mapM Segment.token = .ok tokens) :
    ∃ entries, segments.mapM Segment.entry? = some entries ∧ entries.map Entry.token = tokens ∧
      ((∀ segment ∈ segments, ∀ expression ∈ segment.simples, expression.QuoteFree) →
        ∀ entry ∈ entries, entry.Legible) := by
  induction segments generalizing tokens with
  | nil =>
      rw [← Except.ok.inj h]
      exact ⟨[], rfl, rfl, fun _ entry hentry => absurd hentry List.not_mem_nil⟩
  | cons segment rest ih =>
      obtain ⟨token, later, htoken, hlater, rfl⟩ := Outcome.mapM_cons_ok_iff.mp h
      obtain ⟨entry, hentry, htext, hlegible⟩ := Segment.entry_of_ok htoken
      obtain ⟨entries, hentries, htexts, hlegibles⟩ := ih hlater
      refine ⟨entry :: entries, ?_, ?_, fun hquote => ?_⟩
      · rw [List.mapM_cons, hentry, hentries]
        rfl
      · rw [List.map_cons, htext, htexts]
      · obtain ⟨hhead, htail⟩ := List.forall_mem_cons.mp hquote
        exact List.forall_mem_cons.mpr ⟨hlegible hhead, hlegibles htail⟩

/-- An accepted query denotes entries, and its corpus query is made from these alone. -/
theorem Node.entries_of_ok {node : Node} {text : String} (h : node.toCqp.outcome = .ok text) :
    ∃ entries, node.entries? = some entries ∧ text = Cqp.render (entries.map Entry.token) ∧
      (node.QuoteFree → ∀ entry ∈ entries, entry.Legible) := by
  rw [Node.outcome_toCqp] at h
  split at h
  · obtain ⟨tokens, htokens, rfl⟩ := Outcome.map_ok_iff.mp h
    obtain ⟨entries, hentries, rfl, hlegible⟩ := entries_of_mapM_ok htokens
    exact ⟨entries, hentries, rfl, hlegible⟩
  · cases h

end CorpusQuery.Fcs
