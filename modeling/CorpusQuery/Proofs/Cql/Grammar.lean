/-
  CorpusQuery.Proofs.Cql.Grammar

  The JSON values that spell CQL trees, as a grammar that mentions no reader:
  triples and search clauses, operators, modifiers. The reader finds a tree
  exactly if the value spells it, so that it accepts the grammar and no more.
-/
import CorpusQuery.Cql.Json
import CorpusQuery.Proofs.Json.Members

namespace CorpusQuery.Cql

open Json (OptionalText OptionalList text? text?_eq_some_iff optionalText?_eq_some_iff
  list?_eq_some_iff)

/-! ## The grammar -/

/-- The value spells the modifier: a name, and a comparison and a value that may be missing. -/
structure Modifier.Spells (json : Json) (modifier : Modifier) : Prop where
  name : json.get? "name" = some (.str modifier.name)
  comparison : OptionalText json "comparison" modifier.comparison
  value : OptionalText json "value" modifier.value

/-- The value spells the operator: its exact word, and a list of modifiers that may be left out. -/
structure Operator.Spells (json : Json) (operator : Operator) : Prop where
  value : json.get? "value" = some (.str operator.value.word)
  modifiers : ∃ items, OptionalList json "modifiers" items ∧
    List.Forall₂ Modifier.Spells items operator.modifiers

/-- The value spells the query. Members that have no place in the grammar may be there as well. -/
inductive Node.Spells : Json → Node → Prop
  | triple {json jsonOperator jsonLeft jsonRight : Json} {operator : Operator} {left right : Node}
      (htype : json.get? "type" = some (.str "triple"))
      (hoperator : json.get? "operator" = some jsonOperator)
      (hleft : json.get? "left" = some jsonLeft) (hright : json.get? "right" = some jsonRight)
      (operatorSpelled : Operator.Spells jsonOperator operator)
      (leftSpelled : Spells jsonLeft left) (rightSpelled : Spells jsonRight right) :
      Spells json (.triple operator left right)
  | searchClause {json : Json} {index relation : Option String} {term : String}
      (htype : json.get? "type" = some (.str "search_clause"))
      (hindex : OptionalText json "index" index)
      (hrelation : OptionalText json "relation" relation)
      (hterm : json.get? "term" = some (.str term)) :
      Spells json (.searchClause index relation term)

/-- A triple has an operator and two operands. -/
theorem Node.Spells.exists_parts {json : Json} {node : Node} (h : Node.Spells json node)
    (htype : json.get? "type" = some (.str "triple")) :
    ∃ jsonOperator jsonLeft jsonRight operator left right,
      (json.get? "operator" = some jsonOperator ∧ Operator.Spells jsonOperator operator) ∧
      (json.get? "left" = some jsonLeft ∧ Spells jsonLeft left) ∧
      (json.get? "right" = some jsonRight ∧ Spells jsonRight right) := by
  cases h with
  | triple _ hoperator hleft hright operatorSpelled leftSpelled rightSpelled =>
      exact ⟨_, _, _, _, _, _, ⟨hoperator, operatorSpelled⟩, ⟨hleft, leftSpelled⟩, hright,
        rightSpelled⟩
  | searchClause hother => simp [hother] at htype

/-! ## Operators and modifiers -/

theorem Boolean.ofWord?_eq_some_iff {word : String} {value : Boolean} :
    Boolean.ofWord? word = some value ↔ word = value.word :=
  find?_word_eq_some_iff Boolean.ofWord?_word

theorem Modifier.ofJson?_eq_some_iff {json : Json} {modifier : Modifier} :
    Modifier.ofJson? json = some modifier ↔ Modifier.Spells json modifier := by
  constructor
  · intro h
    obtain ⟨name, hname, h⟩ := Option.bind_eq_some_iff.mp h
    obtain ⟨comparison, hcomparison, h⟩ := Option.bind_eq_some_iff.mp h
    obtain ⟨value, hvalue, h⟩ := Option.bind_eq_some_iff.mp h
    cases h
    have hget := text?_eq_some_iff.mp hname
    obtain ⟨members, rfl⟩ := Json.exists_obj_of_get? hget
    exact ⟨hget, optionalText?_eq_some_iff.mp hcomparison, optionalText?_eq_some_iff.mp hvalue⟩
  · rintro ⟨hname, hcomparison, hvalue⟩
    obtain ⟨members, rfl⟩ := Json.exists_obj_of_get? hname
    rw [Modifier.ofJson?, text?_eq_some_iff.mpr hname, optionalText?_eq_some_iff.mpr hcomparison,
      optionalText?_eq_some_iff.mpr hvalue]
    rfl

theorem Operator.ofJson?_eq_some_iff {json : Json} {operator : Operator} :
    Operator.ofJson? json = some operator ↔ Operator.Spells json operator := by
  have hmodifiers : ∀ {items : List Json} {modifiers : List Modifier},
      items.mapM Modifier.ofJson? = some modifiers ↔
        List.Forall₂ Modifier.Spells items modifiers := by
    intro items modifiers
    rw [mapM_eq_some_iff]
    exact forall₂_congr_of_mem fun item _ modifier => Modifier.ofJson?_eq_some_iff
  constructor
  · intro h
    obtain ⟨word, hword, h⟩ := Option.bind_eq_some_iff.mp h
    obtain ⟨value, hvalue, h⟩ := Option.bind_eq_some_iff.mp h
    obtain ⟨items, hitems, h⟩ := Option.bind_eq_some_iff.mp h
    obtain ⟨modifiers, hread, h⟩ := Option.bind_eq_some_iff.mp h
    cases h
    have hget := text?_eq_some_iff.mp hword
    obtain ⟨members, rfl⟩ := Json.exists_obj_of_get? hget
    rw [Boolean.ofWord?_eq_some_iff.mp hvalue] at hget
    exact ⟨hget, items, list?_eq_some_iff.mp hitems, hmodifiers.mp hread⟩
  · rintro ⟨hvalue, items, hitems, hspelled⟩
    obtain ⟨members, rfl⟩ := Json.exists_obj_of_get? hvalue
    rw [Operator.ofJson?, text?_eq_some_iff.mpr hvalue, list?_eq_some_iff.mpr hitems]
    show (Boolean.ofWord? operator.value.word).bind _ = _
    rw [Boolean.ofWord?_word]
    show (items.mapM Modifier.ofJson?).bind _ = _
    rw [hmodifiers.mpr hspelled]
    rfl

/-! ## Queries -/

/-- A value that is read as a query says which kind of query it is. -/
theorem Node.type_of_ofJson? {json : Json} {node : Node} (h : Node.ofJson? json = some node) :
    json.get? "type" = some (.str "triple") ∨ json.get? "type" = some (.str "search_clause") := by
  rw [Node.ofJson?] at h
  split at h
  · rename_i htype
    exact Or.inl (text?_eq_some_iff.mp htype)
  · rename_i htype
    exact Or.inr (text?_eq_some_iff.mp htype)
  · cases h

/-- A triple is read by reading its operator and its two operands. -/
theorem Node.ofJson?_triple {json : Json} (htype : json.get? "type" = some (.str "triple")) :
    Node.ofJson? json =
      (json.get? "operator").bind fun operator => (Operator.ofJson? operator).bind fun operator =>
        (json.get? "left").bind fun left => (json.get? "right").bind fun right =>
          (Node.ofJson? left).bind fun left => (Node.ofJson? right).bind fun right =>
            some (.triple operator left right) := by
  have hread := text?_eq_some_iff.mpr htype
  rw [Node.ofJson?, hread]
  show ((json.get? "operator").bind Operator.ofJson?).bind _ = _
  rw [Option.bind_assoc]
  refine congrArg (Option.bind _) (funext fun jsonOperator => ?_)
  refine congrArg (Option.bind _) (funext fun operator => ?_)
  rw [← Json.bind_part?]
  refine congrArg (Option.bind _) (funext fun left => ?_)
  rw [← Json.bind_part?]
  rfl

theorem Node.ofJson?_searchClause {json : Json}
    (htype : json.get? "type" = some (.str "search_clause")) :
    Node.ofJson? json =
      (Json.optionalText? json "index").bind fun index =>
        (Json.optionalText? json "relation").bind fun relation =>
          (text? json "term").bind fun term => some (.searchClause index relation term) := by
  rw [Node.ofJson?, text?_eq_some_iff.mpr htype]
  rfl

/-- The reader finds a query exactly if the value spells it. -/
theorem Node.ofJson?_eq_some_iff {json : Json} {node : Node} :
    Node.ofJson? json = some node ↔ Node.Spells json node := by
  constructor
  · intro h
    rcases Node.type_of_ofJson? h with htype | htype
    · rw [Node.ofJson?_triple htype] at h
      obtain ⟨jsonOperator, hoperator, h⟩ := Option.bind_eq_some_iff.mp h
      obtain ⟨operator, hread, h⟩ := Option.bind_eq_some_iff.mp h
      obtain ⟨jsonLeft, hleft, h⟩ := Option.bind_eq_some_iff.mp h
      obtain ⟨jsonRight, hright, h⟩ := Option.bind_eq_some_iff.mp h
      obtain ⟨left, hreadLeft, h⟩ := Option.bind_eq_some_iff.mp h
      obtain ⟨right, hreadRight, h⟩ := Option.bind_eq_some_iff.mp h
      cases h
      -- The operands are smaller values.
      have hltLeft := Json.sizeOf_get?_lt hleft
      have hltRight := Json.sizeOf_get?_lt hright
      exact .triple htype hoperator hleft hright (Operator.ofJson?_eq_some_iff.mp hread)
        (Node.ofJson?_eq_some_iff.mp hreadLeft) (Node.ofJson?_eq_some_iff.mp hreadRight)
    · rw [Node.ofJson?_searchClause htype] at h
      obtain ⟨index, hindex, h⟩ := Option.bind_eq_some_iff.mp h
      obtain ⟨relation, hrelation, h⟩ := Option.bind_eq_some_iff.mp h
      obtain ⟨term, hterm, h⟩ := Option.bind_eq_some_iff.mp h
      cases h
      obtain ⟨members, rfl⟩ := Json.exists_obj_of_get? htype
      exact .searchClause htype (optionalText?_eq_some_iff.mp hindex)
        (optionalText?_eq_some_iff.mp hrelation) (text?_eq_some_iff.mp hterm)
  · intro h
    cases h with
    | triple htype hoperator hleft hright operatorSpelled leftSpelled rightSpelled =>
        have hltLeft := Json.sizeOf_get?_lt hleft
        have hltRight := Json.sizeOf_get?_lt hright
        rw [Node.ofJson?_triple htype, hoperator, hleft, hright]
        simp only [Option.bind_some, Operator.ofJson?_eq_some_iff.mpr operatorSpelled,
          Node.ofJson?_eq_some_iff.mpr leftSpelled, Node.ofJson?_eq_some_iff.mpr rightSpelled]
    | searchClause htype hindex hrelation hterm =>
        obtain ⟨members, rfl⟩ := Json.exists_obj_of_get? htype
        rw [Node.ofJson?_searchClause htype, optionalText?_eq_some_iff.mpr hindex,
          optionalText?_eq_some_iff.mpr hrelation, text?_eq_some_iff.mpr hterm]
        rfl
termination_by sizeOf json

end CorpusQuery.Cql
