/-
  CorpusQuery.Proofs.Fcs.Grammar

  The JSON values that spell FCS-QL trees, as a grammar that mentions no
  reader: five kinds of nodes over six kinds of expressions, with sets of flags
  and occurrence bounds. The reader finds a tree exactly if the value spells
  it, at every depth, and takes bounds at their exact value.
-/
import CorpusQuery.Fcs.Json
import CorpusQuery.Proofs.Json.Members

namespace CorpusQuery.Fcs

open Json (OptionalText OptionalList OptionalCount text? text?_eq_some_iff
  optionalText?_eq_some_iff list?_eq_some_iff countOrOne?_eq_some_iff readItems?)

/-! ## The grammar -/

/-- The items of a list are words for flags, and the set holds just these flags, in whatever order
and however often they are named. -/
def FlagSet.Spells (items : List Json) (flags : FlagSet) : Prop :=
  ∃ named : List RegexFlag, items = named.map (fun flag => .str flag.word) ∧
    ∀ flag, flags.contains flag = true ↔ flag ∈ named

/-- The value spells the simple expression: texts, the exact word of an operator, a qualifier that
may be missing, and a list of flags that may be left out. -/
structure SimpleExpression.Spells (json : Json) (expression : SimpleExpression) : Prop where
  identifier : json.get? "identifier" = some (.str expression.identifier)
  qualifier : OptionalText json "qualifier" expression.qualifier
  operator : json.get? "operator" = some (.str expression.operator.word)
  regex : json.get? "regex" = some (.str expression.regex)
  flags : ∃ items, OptionalList json "regex_flags" items ∧
    FlagSet.Spells items expression.flags

/-- The value spells the expression. -/
inductive Expression.Spells : Json → Expression → Prop
  | simple {json : Json} {expression : SimpleExpression}
      (htype : json.get? "type" = some (.str "simple"))
      (spelled : SimpleExpression.Spells json expression) : Spells json (.simple expression)
  | and {json : Json} {items : List Json} {operands : List Expression}
      (htype : json.get? "type" = some (.str "and"))
      (hoperands : json.get? "operands" = some (.arr items))
      (spelled : List.Forall₂ Spells items operands) : Spells json (.and operands)
  | or {json : Json} {items : List Json} {operands : List Expression}
      (htype : json.get? "type" = some (.str "or"))
      (hoperands : json.get? "operands" = some (.arr items))
      (spelled : List.Forall₂ Spells items operands) : Spells json (.or operands)
  | not {json jsonOperand : Json} {operand : Expression}
      (htype : json.get? "type" = some (.str "not"))
      (hoperand : json.get? "operand" = some jsonOperand)
      (spelled : Spells jsonOperand operand) : Spells json (.not operand)
  | group {json jsonExpression : Json} {expression : Expression}
      (htype : json.get? "type" = some (.str "group"))
      (hexpression : json.get? "expression" = some jsonExpression)
      (spelled : Spells jsonExpression expression) : Spells json (.group expression)
  | wildcard {json : Json} (htype : json.get? "type" = some (.str "wildcard")) :
      Spells json .wildcard

/-- The value spells the segment: an expression, and two bounds that may be left out. -/
structure Segment.Spells (json : Json) (segment : Segment) : Prop where
  expression : ∃ part, json.get? "expression" = some part ∧
    Expression.Spells part segment.expression
  minOccurs : OptionalCount json "min_occurs" segment.minOccurs
  maxOccurs : OptionalCount json "max_occurs" segment.maxOccurs

/-- The value spells the query. -/
inductive Node.Spells : Json → Node → Prop
  | sequence {json : Json} {items : List Json} {children : List Node}
      (htype : json.get? "type" = some (.str "sequence"))
      (hchildren : json.get? "children" = some (.arr items))
      (spelled : List.Forall₂ Spells items children) : Spells json (.sequence children)
  | segment {json : Json} {segment : Segment}
      (htype : json.get? "type" = some (.str "segment"))
      (spelled : Segment.Spells json segment) : Spells json (.segment segment)
  | disjunction {json : Json} {items : List Json} {children : List Node}
      (htype : json.get? "type" = some (.str "disjunction"))
      (hchildren : json.get? "children" = some (.arr items))
      (spelled : List.Forall₂ Spells items children) : Spells json (.disjunction children)
  | group {json jsonQuery : Json} {query : Node} {minOccurs maxOccurs : UInt32}
      (htype : json.get? "type" = some (.str "group"))
      (hquery : json.get? "query" = some jsonQuery)
      (hmin : OptionalCount json "min_occurs" minOccurs)
      (hmax : OptionalCount json "max_occurs" maxOccurs)
      (spelled : Spells jsonQuery query) : Spells json (.group query minOccurs maxOccurs)
  | withWithin {json jsonQuery : Json} {query : Node} {scope : WithinScope}
      (htype : json.get? "type" = some (.str "with_within"))
      (hquery : json.get? "query" = some jsonQuery)
      (hscope : json.get? "scope" = some (.str scope.word))
      (spelled : Spells jsonQuery query) : Spells json (.withWithin query scope)

/-! ## What each kind of expression and node holds -/

section Kinds

variable {json : Json} {word : String}

theorem Expression.Spells.exists_flags {expression : Expression}
    (h : Expression.Spells json expression) (htype : json.get? "type" = some (.str "simple")) :
    ∃ items flags, OptionalList json "regex_flags" items ∧ FlagSet.Spells items flags := by
  cases h with
  | simple _ spelled =>
      obtain ⟨items, hitems, hflags⟩ := spelled.flags
      exact ⟨items, _, hitems, hflags⟩
  | _ hother => simp [hother] at htype

theorem Expression.Spells.exists_operands {expression : Expression}
    (h : Expression.Spells json expression) (hword : word = "and" ∨ word = "or")
    (htype : json.get? "type" = some (.str word)) :
    ∃ items operands, json.get? "operands" = some (.arr items) ∧
      List.Forall₂ Expression.Spells items operands := by
  cases h with
  | and _ hget spelled => exact ⟨_, _, hget, spelled⟩
  | or _ hget spelled => exact ⟨_, _, hget, spelled⟩
  | _ hother => rcases hword with rfl | rfl <;> simp [hother] at htype

theorem Expression.Spells.exists_operand {expression : Expression}
    (h : Expression.Spells json expression) (htype : json.get? "type" = some (.str "not")) :
    ∃ part operand, json.get? "operand" = some part ∧ Expression.Spells part operand := by
  cases h with
  | not _ hget spelled => exact ⟨_, _, hget, spelled⟩
  | _ hother => simp [hother] at htype

theorem Expression.Spells.exists_expression {expression : Expression}
    (h : Expression.Spells json expression) (htype : json.get? "type" = some (.str "group")) :
    ∃ part inner, json.get? "expression" = some part ∧ Expression.Spells part inner := by
  cases h with
  | group _ hget spelled => exact ⟨_, _, hget, spelled⟩
  | _ hother => simp [hother] at htype

theorem Node.Spells.exists_children {node : Node} (h : Node.Spells json node)
    (hword : word = "sequence" ∨ word = "disjunction")
    (htype : json.get? "type" = some (.str word)) :
    ∃ items children, json.get? "children" = some (.arr items) ∧
      List.Forall₂ Node.Spells items children := by
  cases h with
  | sequence _ hget spelled => exact ⟨_, _, hget, spelled⟩
  | disjunction _ hget spelled => exact ⟨_, _, hget, spelled⟩
  | _ hother => rcases hword with rfl | rfl <;> simp [hother] at htype

theorem Node.Spells.exists_query {node : Node} (h : Node.Spells json node)
    (hword : word = "group" ∨ word = "with_within")
    (htype : json.get? "type" = some (.str word)) :
    ∃ part query, json.get? "query" = some part ∧ Node.Spells part query := by
  cases h with
  | group _ hget _ _ spelled => exact ⟨_, _, hget, spelled⟩
  | withWithin _ hget _ spelled => exact ⟨_, _, hget, spelled⟩
  | _ hother => rcases hword with rfl | rfl <;> simp [hother] at htype

theorem Node.Spells.exists_segment {node : Node} (h : Node.Spells json node)
    (htype : json.get? "type" = some (.str "segment")) :
    ∃ segment, Segment.Spells json segment := by
  cases h with
  | segment _ spelled => exact ⟨_, spelled⟩
  | _ hother => simp [hother] at htype

theorem Node.Spells.exists_bounds {node : Node} (h : Node.Spells json node)
    (hword : word = "segment" ∨ word = "group") (htype : json.get? "type" = some (.str word)) :
    ∃ minOccurs maxOccurs, OptionalCount json "min_occurs" minOccurs ∧
      OptionalCount json "max_occurs" maxOccurs := by
  cases h with
  | segment _ spelled => exact ⟨_, _, spelled.minOccurs, spelled.maxOccurs⟩
  | group _ _ hmin hmax _ => exact ⟨_, _, hmin, hmax⟩
  | _ hother => rcases hword with rfl | rfl <;> simp [hother] at htype

end Kinds

/-! ## Words and flags -/

theorem RegexFlag.ofWord?_eq_some_iff {word : String} {flag : RegexFlag} :
    RegexFlag.ofWord? word = some flag ↔ word = flag.word :=
  find?_word_eq_some_iff RegexFlag.ofWord?_word

theorem Operator.ofWord?_eq_some_iff {word : String} {operator : Operator} :
    Operator.ofWord? word = some operator ↔ word = operator.word :=
  find?_word_eq_some_iff Operator.ofWord?_word

theorem WithinScope.ofWord?_eq_some_iff {word : String} {scope : WithinScope} :
    WithinScope.ofWord? word = some scope ↔ word = scope.word :=
  find?_word_eq_some_iff WithinScope.ofWord?_word

/-- A word that is read from a member. -/
theorem bind_text?_eq_some_iff {α : Type} {json : Json} {name : String}
    {read : String → Option α} {word : α → String}
    (h : ∀ {text : String} {x : α}, read text = some x ↔ text = word x) {x : α} :
    (text? json name).bind read = some x ↔ json.get? name = some (.str (word x)) := by
  rw [Option.bind_eq_some_iff]
  constructor
  · rintro ⟨text, htext, hread⟩
    rw [← h.mp hread]
    exact text?_eq_some_iff.mp htext
  · intro hget
    exact ⟨word x, text?_eq_some_iff.mpr hget, h.mpr rfl⟩

theorem RegexFlag.ofJson?_eq_some_iff {json : Json} {flag : RegexFlag} :
    RegexFlag.ofJson? json = some flag ↔ json = .str flag.word := by
  cases json with
  | str word => exact RegexFlag.ofWord?_eq_some_iff.trans (by rw [Json.str.injEq])
  | _ => exact ⟨nofun, nofun⟩

/-- A set of flags is known by the flags it holds. -/
theorem FlagSet.ext_contains {first second : FlagSet}
    (h : ∀ flag, first.contains flag = second.contains flag) : first = second := by
  obtain ⟨a, b, c, d⟩ := first
  obtain ⟨a', b', c', d'⟩ := second
  have ha : a = a' := h .caseInsensitive
  have hb : b = b' := h .caseSensitive
  have hc : c = c' := h .literalMatching
  have hd : d = d' := h .ignoreDiacritics
  rw [ha, hb, hc, hd]

theorem FlagSet.contains_insert (flags : FlagSet) (new flag : RegexFlag) :
    (flags.insert new).contains flag = (flags.contains flag || flag = new) := by
  cases new <;> cases flag <;> simp [FlagSet.insert, FlagSet.contains]

theorem FlagSet.contains_insertAll (flags : FlagSet) (more : List RegexFlag) (flag : RegexFlag) :
    (flags.insertAll more).contains flag = (flags.contains flag || decide (flag ∈ more)) := by
  induction more generalizing flags with
  | nil => simp [FlagSet.insertAll]
  | cons new rest ih =>
      show ((flags.insert new).insertAll rest).contains flag = _
      rw [ih, FlagSet.contains_insert, Bool.or_assoc]
      simp only [List.mem_cons, Bool.decide_or]

theorem FlagSet.contains_ofList (named : List RegexFlag) (flag : RegexFlag) :
    (FlagSet.ofList named).contains flag = true ↔ flag ∈ named := by
  rw [FlagSet.ofList, FlagSet.contains_insertAll]
  cases flag <;> simp [FlagSet.empty, FlagSet.contains]

theorem mapM_flags_eq_some_iff {items : List Json} {named : List RegexFlag} :
    items.mapM RegexFlag.ofJson? = some named ↔
      items = named.map fun flag => .str flag.word := by
  rw [mapM_eq_some_iff, ← List.forall₂_eq_eq_eq, List.forall₂_map_right_iff]
  exact forall₂_congr_of_mem fun item _ flag => RegexFlag.ofJson?_eq_some_iff

/-- Reading a list of flags gives the set that the list spells. -/
theorem FlagSet.spells_iff {items : List Json} {flags : FlagSet} :
    FlagSet.Spells items flags ↔
      ∃ named, items.mapM RegexFlag.ofJson? = some named ∧ FlagSet.ofList named = flags := by
  refine exists_congr fun named => and_congr mapM_flags_eq_some_iff.symm ?_
  constructor
  · intro h
    refine FlagSet.ext_contains fun flag => ?_
    rw [Bool.eq_iff_iff, FlagSet.contains_ofList, h flag]
  · intro h flag
    rw [← h, FlagSet.contains_ofList]

/-! ## Simple expressions -/

theorem SimpleExpression.ofJson?_eq_some_iff {json : Json} {expression : SimpleExpression} :
    SimpleExpression.ofJson? json = some expression ↔ SimpleExpression.Spells json expression := by
  constructor
  · intro h
    obtain ⟨identifier, hidentifier, h⟩ := Option.bind_eq_some_iff.mp h
    obtain ⟨qualifier, hqualifier, h⟩ := Option.bind_eq_some_iff.mp h
    obtain ⟨operator, hoperator, h⟩ := Option.bind_eq_some_iff.mp h
    obtain ⟨regex, hregex, h⟩ := Option.bind_eq_some_iff.mp h
    obtain ⟨items, hitems, h⟩ := Option.bind_eq_some_iff.mp h
    obtain ⟨named, hnamed, h⟩ := Option.bind_eq_some_iff.mp h
    cases h
    have hget := text?_eq_some_iff.mp hidentifier
    obtain ⟨members, rfl⟩ := Json.exists_obj_of_get? hget
    exact ⟨hget, optionalText?_eq_some_iff.mp hqualifier,
      (bind_text?_eq_some_iff Operator.ofWord?_eq_some_iff).mp hoperator,
      text?_eq_some_iff.mp hregex, items, list?_eq_some_iff.mp hitems,
      FlagSet.spells_iff.mpr ⟨named, hnamed, rfl⟩⟩
  · rintro ⟨hidentifier, hqualifier, hoperator, hregex, items, hitems, hflags⟩
    obtain ⟨members, rfl⟩ := Json.exists_obj_of_get? hidentifier
    obtain ⟨named, hnamed, hset⟩ := FlagSet.spells_iff.mp hflags
    rw [SimpleExpression.ofJson?, text?_eq_some_iff.mpr hidentifier,
      optionalText?_eq_some_iff.mpr hqualifier,
      (bind_text?_eq_some_iff Operator.ofWord?_eq_some_iff).mpr hoperator,
      text?_eq_some_iff.mpr hregex, list?_eq_some_iff.mpr hitems]
    show (items.mapM RegexFlag.ofJson?).bind _ = _
    rw [hnamed]
    show some (⟨_, _, _, _, FlagSet.ofList named⟩ : SimpleExpression) = _
    rw [hset]

/-! ## Expressions -/

/-- A value that is read as an expression says which kind of expression it is. -/
theorem Expression.type_of_ofJson? {json : Json} {expression : Expression}
    (h : Expression.ofJson? json = some expression) :
    ∃ word ∈ ["simple", "and", "or", "not", "group", "wildcard"],
      json.get? "type" = some (.str word) := by
  rw [Expression.ofJson?] at h
  split at h
  case h_7 => cases h
  all_goals
    rename_i htype
    exact ⟨_, by decide, text?_eq_some_iff.mp htype⟩

theorem Expression.ofJson?_simple {json : Json}
    (htype : json.get? "type" = some (.str "simple")) :
    Expression.ofJson? json = (SimpleExpression.ofJson? json).map .simple := by
  rw [Expression.ofJson?, text?_eq_some_iff.mpr htype]
  rfl

theorem Expression.ofJson?_and {json : Json} (htype : json.get? "type" = some (.str "and")) :
    Expression.ofJson? json =
      (json.get? "operands").bind fun list => (readItems? Expression.ofJson? list).map .and := by
  rw [Expression.ofJson?, text?_eq_some_iff.mpr htype]
  exact Json.bind_list? json "operands" Expression.ofJson? Expression.and

theorem Expression.ofJson?_or {json : Json} (htype : json.get? "type" = some (.str "or")) :
    Expression.ofJson? json =
      (json.get? "operands").bind fun list => (readItems? Expression.ofJson? list).map .or := by
  rw [Expression.ofJson?, text?_eq_some_iff.mpr htype]
  exact Json.bind_list? json "operands" Expression.ofJson? Expression.or

theorem Expression.ofJson?_not {json : Json} (htype : json.get? "type" = some (.str "not")) :
    Expression.ofJson? json =
      (json.get? "operand").bind fun operand => (Expression.ofJson? operand).map .not := by
  rw [Expression.ofJson?, text?_eq_some_iff.mpr htype, ← Json.bind_part?]
  simp only [Option.map_eq_bind]
  rfl

theorem Expression.ofJson?_group {json : Json} (htype : json.get? "type" = some (.str "group")) :
    Expression.ofJson? json =
      (json.get? "expression").bind fun part => (Expression.ofJson? part).map .group := by
  rw [Expression.ofJson?, text?_eq_some_iff.mpr htype, ← Json.bind_part?]
  simp only [Option.map_eq_bind]
  rfl

theorem Expression.ofJson?_wildcard {json : Json}
    (htype : json.get? "type" = some (.str "wildcard")) :
    Expression.ofJson? json = some .wildcard := by
  rw [Expression.ofJson?, text?_eq_some_iff.mpr htype]
  rfl

/-- The reader finds an expression exactly if the value spells it. -/
theorem Expression.ofJson?_eq_some_iff {json : Json} {expression : Expression} :
    Expression.ofJson? json = some expression ↔ Expression.Spells json expression := by
  -- The operands are smaller values.
  have hitem : ∀ item, sizeOf item < sizeOf json → ∀ operand,
      Expression.ofJson? item = some operand ↔ Expression.Spells item operand :=
    fun item hlt operand => Expression.ofJson?_eq_some_iff
  constructor
  · intro h
    obtain ⟨word, hword, htype⟩ := Expression.type_of_ofJson? h
    simp only [List.mem_cons, List.not_mem_nil, or_false] at hword
    obtain rfl | rfl | rfl | rfl | rfl | rfl := hword
    · rw [Expression.ofJson?_simple htype] at h
      obtain ⟨simple, hsimple, rfl⟩ := Option.map_eq_some_iff.mp h
      exact .simple htype (SimpleExpression.ofJson?_eq_some_iff.mp hsimple)
    · rw [Expression.ofJson?_and htype, Json.bind_readItems?_iff hitem] at h
      obtain ⟨items, operands, hget, hspelled, rfl⟩ := h
      exact .and htype hget hspelled
    · rw [Expression.ofJson?_or htype, Json.bind_readItems?_iff hitem] at h
      obtain ⟨items, operands, hget, hspelled, rfl⟩ := h
      exact .or htype hget hspelled
    · rw [Expression.ofJson?_not htype] at h
      obtain ⟨part, hget, h⟩ := Option.bind_eq_some_iff.mp h
      obtain ⟨operand, hoperand, rfl⟩ := Option.map_eq_some_iff.mp h
      exact .not htype hget ((hitem part (Json.sizeOf_get?_lt hget) operand).mp hoperand)
    · rw [Expression.ofJson?_group htype] at h
      obtain ⟨part, hget, h⟩ := Option.bind_eq_some_iff.mp h
      obtain ⟨inner, hinner, rfl⟩ := Option.map_eq_some_iff.mp h
      exact .group htype hget ((hitem part (Json.sizeOf_get?_lt hget) inner).mp hinner)
    · rw [Expression.ofJson?_wildcard htype] at h
      cases h
      exact .wildcard htype
  · intro h
    cases h with
    | simple htype spelled =>
        rw [Expression.ofJson?_simple htype, SimpleExpression.ofJson?_eq_some_iff.mpr spelled]
        rfl
    | and htype hget spelled =>
        rw [Expression.ofJson?_and htype, Json.bind_readItems?_iff hitem]
        exact ⟨_, _, hget, spelled, rfl⟩
    | or htype hget spelled =>
        rw [Expression.ofJson?_or htype, Json.bind_readItems?_iff hitem]
        exact ⟨_, _, hget, spelled, rfl⟩
    | not htype hget spelled =>
        have hread := (hitem _ (Json.sizeOf_get?_lt hget) _).mpr spelled
        rw [Expression.ofJson?_not htype, hget, Option.bind_some, hread]
        rfl
    | group htype hget spelled =>
        have hread := (hitem _ (Json.sizeOf_get?_lt hget) _).mpr spelled
        rw [Expression.ofJson?_group htype, hget, Option.bind_some, hread]
        rfl
    | wildcard htype => exact Expression.ofJson?_wildcard htype
termination_by sizeOf json

/-! ## Segments and queries -/

theorem Segment.ofJson?_eq_some_iff {json : Json} {segment : Segment} :
    Segment.ofJson? json = some segment ↔ Segment.Spells json segment := by
  constructor
  · intro h
    obtain ⟨expression, hexpression, h⟩ := Option.bind_eq_some_iff.mp h
    obtain ⟨minOccurs, hmin, h⟩ := Option.bind_eq_some_iff.mp h
    obtain ⟨maxOccurs, hmax, h⟩ := Option.bind_eq_some_iff.mp h
    cases h
    obtain ⟨part, hget, hread⟩ := Option.bind_eq_some_iff.mp hexpression
    obtain ⟨members, rfl⟩ := Json.exists_obj_of_get? hget
    exact ⟨⟨part, hget, Expression.ofJson?_eq_some_iff.mp hread⟩,
      countOrOne?_eq_some_iff.mp hmin, countOrOne?_eq_some_iff.mp hmax⟩
  · rintro ⟨⟨part, hget, hspelled⟩, hmin, hmax⟩
    obtain ⟨members, rfl⟩ := Json.exists_obj_of_get? hget
    have hread := Expression.ofJson?_eq_some_iff.mpr hspelled
    rw [Segment.ofJson?, hget, countOrOne?_eq_some_iff.mpr hmin, countOrOne?_eq_some_iff.mpr hmax]
    show (Expression.ofJson? part).bind _ = _
    rw [hread]
    rfl

/-- A value that is read as a query says which kind of query it is. -/
theorem Node.type_of_ofJson? {json : Json} {node : Node} (h : Node.ofJson? json = some node) :
    ∃ word ∈ ["sequence", "segment", "disjunction", "group", "with_within"],
      json.get? "type" = some (.str word) := by
  rw [Node.ofJson?] at h
  split at h
  case h_6 => cases h
  all_goals
    rename_i htype
    exact ⟨_, by decide, text?_eq_some_iff.mp htype⟩

theorem Node.ofJson?_sequence {json : Json} (htype : json.get? "type" = some (.str "sequence")) :
    Node.ofJson? json =
      (json.get? "children").bind fun list => (readItems? Node.ofJson? list).map .sequence := by
  rw [Node.ofJson?, text?_eq_some_iff.mpr htype]
  exact Json.bind_list? json "children" Node.ofJson? Node.sequence

theorem Node.ofJson?_segment {json : Json} (htype : json.get? "type" = some (.str "segment")) :
    Node.ofJson? json = (Segment.ofJson? json).map .segment := by
  rw [Node.ofJson?, text?_eq_some_iff.mpr htype]
  rfl

theorem Node.ofJson?_disjunction {json : Json}
    (htype : json.get? "type" = some (.str "disjunction")) :
    Node.ofJson? json =
      (json.get? "children").bind fun list => (readItems? Node.ofJson? list).map .disjunction := by
  rw [Node.ofJson?, text?_eq_some_iff.mpr htype]
  exact Json.bind_list? json "children" Node.ofJson? Node.disjunction

theorem Node.ofJson?_group {json : Json} (htype : json.get? "type" = some (.str "group")) :
    Node.ofJson? json = (json.get? "query").bind fun query => (Node.ofJson? query).bind fun query =>
      (Json.countOrOne? json "min_occurs").bind fun minOccurs =>
        (Json.countOrOne? json "max_occurs").bind fun maxOccurs =>
          some (.group query minOccurs maxOccurs) := by
  rw [Node.ofJson?, text?_eq_some_iff.mpr htype, ← Json.bind_part?]
  rfl

theorem Node.ofJson?_withWithin {json : Json}
    (htype : json.get? "type" = some (.str "with_within")) :
    Node.ofJson? json = (json.get? "query").bind fun query => (Node.ofJson? query).bind fun query =>
      ((text? json "scope").bind WithinScope.ofWord?).bind fun scope =>
        some (.withWithin query scope) := by
  rw [Node.ofJson?, text?_eq_some_iff.mpr htype, ← Json.bind_part?]
  rfl

/-- The reader finds a query exactly if the value spells it. -/
theorem Node.ofJson?_eq_some_iff {json : Json} {node : Node} :
    Node.ofJson? json = some node ↔ Node.Spells json node := by
  -- The children are smaller values.
  have hitem : ∀ item, sizeOf item < sizeOf json → ∀ child,
      Node.ofJson? item = some child ↔ Node.Spells item child :=
    fun item hlt child => Node.ofJson?_eq_some_iff
  constructor
  · intro h
    obtain ⟨word, hword, htype⟩ := Node.type_of_ofJson? h
    obtain ⟨members, rfl⟩ := Json.exists_obj_of_get? htype
    simp only [List.mem_cons, List.not_mem_nil, or_false] at hword
    obtain rfl | rfl | rfl | rfl | rfl := hword
    · rw [Node.ofJson?_sequence htype, Json.bind_readItems?_iff hitem] at h
      obtain ⟨items, children, hget, hspelled, rfl⟩ := h
      exact .sequence htype hget hspelled
    · rw [Node.ofJson?_segment htype] at h
      obtain ⟨segment, hsegment, rfl⟩ := Option.map_eq_some_iff.mp h
      exact .segment htype (Segment.ofJson?_eq_some_iff.mp hsegment)
    · rw [Node.ofJson?_disjunction htype, Json.bind_readItems?_iff hitem] at h
      obtain ⟨items, children, hget, hspelled, rfl⟩ := h
      exact .disjunction htype hget hspelled
    · rw [Node.ofJson?_group htype] at h
      obtain ⟨part, hget, h⟩ := Option.bind_eq_some_iff.mp h
      obtain ⟨query, hquery, h⟩ := Option.bind_eq_some_iff.mp h
      obtain ⟨minOccurs, hmin, h⟩ := Option.bind_eq_some_iff.mp h
      obtain ⟨maxOccurs, hmax, h⟩ := Option.bind_eq_some_iff.mp h
      cases h
      exact .group htype hget (countOrOne?_eq_some_iff.mp hmin) (countOrOne?_eq_some_iff.mp hmax)
        ((hitem part (Json.sizeOf_get?_lt hget) query).mp hquery)
    · rw [Node.ofJson?_withWithin htype] at h
      obtain ⟨part, hget, h⟩ := Option.bind_eq_some_iff.mp h
      obtain ⟨query, hquery, h⟩ := Option.bind_eq_some_iff.mp h
      obtain ⟨scope, hscope, h⟩ := Option.bind_eq_some_iff.mp h
      cases h
      exact .withWithin htype hget
        ((bind_text?_eq_some_iff WithinScope.ofWord?_eq_some_iff).mp hscope)
        ((hitem part (Json.sizeOf_get?_lt hget) query).mp hquery)
  · intro h
    cases h with
    | sequence htype hget spelled =>
        rw [Node.ofJson?_sequence htype, Json.bind_readItems?_iff hitem]
        exact ⟨_, _, hget, spelled, rfl⟩
    | segment htype spelled =>
        rw [Node.ofJson?_segment htype, Segment.ofJson?_eq_some_iff.mpr spelled]
        rfl
    | disjunction htype hget spelled =>
        rw [Node.ofJson?_disjunction htype, Json.bind_readItems?_iff hitem]
        exact ⟨_, _, hget, spelled, rfl⟩
    | group htype hget hmin hmax spelled =>
        have hread := (hitem _ (Json.sizeOf_get?_lt hget) _).mpr spelled
        obtain ⟨members, rfl⟩ := Json.exists_obj_of_get? htype
        rw [Node.ofJson?_group htype, hget, Option.bind_some, hread, Option.bind_some,
          countOrOne?_eq_some_iff.mpr hmin, countOrOne?_eq_some_iff.mpr hmax]
        rfl
    | withWithin htype hget hscope spelled =>
        have hread := (hitem _ (Json.sizeOf_get?_lt hget) _).mpr spelled
        rw [Node.ofJson?_withWithin htype, hget, Option.bind_some, hread, Option.bind_some,
          (bind_text?_eq_some_iff WithinScope.ofWord?_eq_some_iff).mpr hscope]
        rfl
termination_by sizeOf json

end CorpusQuery.Fcs
