/-
  CorpusQuery.Proofs.Query.Decoding

  Reading the JSON form of a query checks all of it. The places of a tree that
  the grammar speaks of (nodes, expressions, flags, bounds, operators,
  modifiers) hold each other as parts; a value that is well formed has
  well-formed parts only, so that one ill-formed part, however deep and
  whatever a translation would do with it, leaves nothing to read.
-/
import CorpusQuery.Proofs.Cql.Grammar
import CorpusQuery.Proofs.Fcs.Grammar
import Mathlib.Logic.Relation

namespace CorpusQuery.Query

open Relation (ReflTransGen)

/-! ## Parts -/

/-- What a value stands for at its place in the JSON form of a query. -/
inductive Role
  | fcsNode
  | expression
  | flag
  | bound
  | cqlNode
  | operator
  | modifier
deriving DecidableEq, Repr

/-- A value at its place. -/
structure Part where
  role : Role
  json : Json

/-- The value spells something of the kind that its place asks for. -/
def Part.WellFormed : Part → Prop
  | ⟨.fcsNode, json⟩ => ∃ node, Fcs.Node.Spells json node
  | ⟨.expression, json⟩ => ∃ expression, Fcs.Expression.Spells json expression
  | ⟨.flag, json⟩ => ∃ flag : Fcs.RegexFlag, json = .str flag.word
  | ⟨.bound, json⟩ => ∃ n : UInt32, json = .number (.int n.toNat)
  | ⟨.cqlNode, json⟩ => ∃ node, Cql.Node.Spells json node
  | ⟨.operator, json⟩ => ∃ operator, Cql.Operator.Spells json operator
  | ⟨.modifier, json⟩ => ∃ modifier, Cql.Modifier.Spells json modifier

/-- The places right below a place, for each kind of node and expression. -/
inductive Part.Holds : Part → Part → Prop
  | child {json item : Json} {items : List Json} {word : String}
      (hword : word = "sequence" ∨ word = "disjunction")
      (htype : json.get? "type" = some (.str word))
      (hget : json.get? "children" = some (.arr items)) (hmem : item ∈ items) :
      Holds ⟨.fcsNode, json⟩ ⟨.fcsNode, item⟩
  | query {json part : Json} {word : String} (hword : word = "group" ∨ word = "with_within")
      (htype : json.get? "type" = some (.str word)) (hget : json.get? "query" = some part) :
      Holds ⟨.fcsNode, json⟩ ⟨.fcsNode, part⟩
  | segmentExpression {json part : Json} (htype : json.get? "type" = some (.str "segment"))
      (hget : json.get? "expression" = some part) : Holds ⟨.fcsNode, json⟩ ⟨.expression, part⟩
  | bound {json part : Json} {word name : String} (hword : word = "segment" ∨ word = "group")
      (htype : json.get? "type" = some (.str word))
      (hname : name = "min_occurs" ∨ name = "max_occurs") (hget : json.get? name = some part) :
      Holds ⟨.fcsNode, json⟩ ⟨.bound, part⟩
  | operand {json item : Json} {items : List Json} {word : String}
      (hword : word = "and" ∨ word = "or") (htype : json.get? "type" = some (.str word))
      (hget : json.get? "operands" = some (.arr items)) (hmem : item ∈ items) :
      Holds ⟨.expression, json⟩ ⟨.expression, item⟩
  | negated {json part : Json} (htype : json.get? "type" = some (.str "not"))
      (hget : json.get? "operand" = some part) : Holds ⟨.expression, json⟩ ⟨.expression, part⟩
  | grouped {json part : Json} (htype : json.get? "type" = some (.str "group"))
      (hget : json.get? "expression" = some part) : Holds ⟨.expression, json⟩ ⟨.expression, part⟩
  | flag {json item : Json} {items : List Json}
      (htype : json.get? "type" = some (.str "simple"))
      (hget : json.get? "regex_flags" = some (.arr items)) (hmem : item ∈ items) :
      Holds ⟨.expression, json⟩ ⟨.flag, item⟩
  | tripleOperator {json part : Json} (htype : json.get? "type" = some (.str "triple"))
      (hget : json.get? "operator" = some part) : Holds ⟨.cqlNode, json⟩ ⟨.operator, part⟩
  | tripleSide {json part : Json} {name : String}
      (htype : json.get? "type" = some (.str "triple")) (hname : name = "left" ∨ name = "right")
      (hget : json.get? name = some part) : Holds ⟨.cqlNode, json⟩ ⟨.cqlNode, part⟩
  | modifier {json item : Json} {items : List Json}
      (hget : json.get? "modifiers" = some (.arr items)) (hmem : item ∈ items) :
      Holds ⟨.operator, json⟩ ⟨.modifier, item⟩

/-! ## Well-formed values have well-formed parts -/

/-- What a well-formed value holds is well formed. -/
theorem Part.WellFormed.of_holds {whole part : Part} (hpart : whole.Holds part)
    (hwhole : whole.WellFormed) : part.WellFormed := by
  -- The grammar at the kind of the whole says what the member spells, and a look-up has one result.
  cases hpart with
  | child hword htype hget hmem =>
      obtain ⟨node, hnode⟩ := hwhole
      obtain ⟨items, children, hitems, hspelled⟩ := hnode.exists_children hword htype
      cases hitems.symm.trans hget
      obtain ⟨child, -, hchild⟩ := exists_of_forall₂_of_mem hspelled hmem
      exact ⟨child, hchild⟩
  | query hword htype hget =>
      obtain ⟨node, hnode⟩ := hwhole
      obtain ⟨found, query, hfound, hspelled⟩ := hnode.exists_query hword htype
      cases hfound.symm.trans hget
      exact ⟨query, hspelled⟩
  | segmentExpression htype hget =>
      obtain ⟨node, hnode⟩ := hwhole
      obtain ⟨segment, hsegment⟩ := hnode.exists_segment htype
      obtain ⟨found, hfound, hspelled⟩ := hsegment.expression
      cases hfound.symm.trans hget
      exact ⟨segment.expression, hspelled⟩
  | bound hword htype hname hget =>
      obtain ⟨node, hnode⟩ := hwhole
      obtain ⟨minOccurs, maxOccurs, hmin, hmax⟩ := hnode.exists_bounds hword htype
      rcases hname with rfl | rfl
      · exact ⟨minOccurs, hmin.eq_of_get? hget⟩
      · exact ⟨maxOccurs, hmax.eq_of_get? hget⟩
  | operand hword htype hget hmem =>
      obtain ⟨expression, hexpression⟩ := hwhole
      obtain ⟨items, operands, hitems, hspelled⟩ := hexpression.exists_operands hword htype
      cases hitems.symm.trans hget
      obtain ⟨operand, -, hoperand⟩ := exists_of_forall₂_of_mem hspelled hmem
      exact ⟨operand, hoperand⟩
  | negated htype hget =>
      obtain ⟨expression, hexpression⟩ := hwhole
      obtain ⟨found, operand, hfound, hspelled⟩ := hexpression.exists_operand htype
      cases hfound.symm.trans hget
      exact ⟨operand, hspelled⟩
  | grouped htype hget =>
      obtain ⟨expression, hexpression⟩ := hwhole
      obtain ⟨found, inner, hfound, hspelled⟩ := hexpression.exists_expression htype
      cases hfound.symm.trans hget
      exact ⟨inner, hspelled⟩
  | flag htype hget hmem =>
      obtain ⟨expression, hexpression⟩ := hwhole
      obtain ⟨items, flags, hitems, named, rfl, hnamed⟩ := hexpression.exists_flags htype
      cases hitems.eq_of_get? hget
      obtain ⟨flag, -, hflag⟩ := List.mem_map.mp hmem
      exact ⟨flag, hflag.symm⟩
  | tripleOperator htype hget =>
      obtain ⟨node, hnode⟩ := hwhole
      obtain ⟨found, _, _, operator, _, _, ⟨hfound, hspelled⟩, -, -⟩ := hnode.exists_parts htype
      cases hfound.symm.trans hget
      exact ⟨operator, hspelled⟩
  | tripleSide htype hname hget =>
      obtain ⟨node, hnode⟩ := hwhole
      obtain ⟨_, _, _, _, left, right, -, ⟨hleft, leftSpelled⟩, hright, rightSpelled⟩ :=
        hnode.exists_parts htype
      rcases hname with rfl | rfl
      · cases hleft.symm.trans hget
        exact ⟨left, leftSpelled⟩
      · cases hright.symm.trans hget
        exact ⟨right, rightSpelled⟩
  | modifier hget hmem =>
      obtain ⟨operator, hoperator⟩ := hwhole
      obtain ⟨items, hitems, hspelled⟩ := hoperator.modifiers
      cases hitems.eq_of_get? hget
      obtain ⟨modifier, -, hmodifier⟩ := exists_of_forall₂_of_mem hspelled hmem
      exact ⟨modifier, hmodifier⟩

/-- So is everything at any depth below it. -/
theorem Part.WellFormed.of_reaches {whole part : Part} (h : ReflTransGen Part.Holds whole part)
    (hwhole : whole.WellFormed) : part.WellFormed := by
  -- The invariant is that the part reached so far is well formed.
  induction h with
  | refl => exact hwhole
  | tail _ hholds ih => exact ih.of_holds hholds

/-! ## Reading all of a value -/

theorem fcsNode_ofJson?_eq_none {json : Json} {part : Part}
    (hreach : ReflTransGen Part.Holds ⟨.fcsNode, json⟩ part) (hpart : ¬ part.WellFormed) :
    Fcs.Node.ofJson? json = none := by
  rw [Option.eq_none_iff_forall_ne_some]
  intro node hread
  have hwhole : Part.WellFormed ⟨.fcsNode, json⟩ := ⟨node, Fcs.Node.ofJson?_eq_some_iff.mp hread⟩
  exact hpart (hwhole.of_reaches hreach)

theorem cqlNode_ofJson?_eq_none {json : Json} {part : Part}
    (hreach : ReflTransGen Part.Holds ⟨.cqlNode, json⟩ part) (hpart : ¬ part.WellFormed) :
    Cql.Node.ofJson? json = none := by
  rw [Option.eq_none_iff_forall_ne_some]
  intro node hread
  have hwhole : Part.WellFormed ⟨.cqlNode, json⟩ := ⟨node, Cql.Node.ofJson?_eq_some_iff.mp hread⟩
  exact hpart (hwhole.of_reaches hreach)

/-- Reading is exact: a tree is found exactly if the value spells it, with the bounds at the value
of their literals, and one ill-formed part anywhere leaves nothing to be found. -/
theorem reading_exact :
    (∀ json node, Fcs.Node.ofJson? json = some node ↔ Fcs.Node.Spells json node) ∧
    (∀ json node, Cql.Node.ofJson? json = some node ↔ Cql.Node.Spells json node) ∧
    (∀ (literal : List Char) (n : UInt32),
      ((Json.Number.ofChars? literal).bind fun number => (Json.number number).count?) = some n ↔
        literal = Nat.toDigits 10 n.toNat) ∧
    (∀ json part, ReflTransGen Part.Holds ⟨.fcsNode, json⟩ part → ¬ part.WellFormed →
      Fcs.Node.ofJson? json = none) ∧
    (∀ json part, ReflTransGen Part.Holds ⟨.cqlNode, json⟩ part → ¬ part.WellFormed →
      Cql.Node.ofJson? json = none) :=
  ⟨fun _ _ => Fcs.Node.ofJson?_eq_some_iff, fun _ _ => Cql.Node.ofJson?_eq_some_iff,
    fun _ _ => Json.count?_literal_iff, fun _ _ => fcsNode_ofJson?_eq_none,
    fun _ _ => cqlNode_ofJson?_eq_none⟩

/-- A sequence of one disjunction, whose only segment carries a flag that there is none of. -/
def unknownFlag : Json :=
  .obj [("type", .str "sequence"), ("children", .arr [
    .obj [("type", .str "disjunction"), ("children", .arr [
      .obj [("type", .str "segment"), ("expression",
        .obj [("type", .str "simple"), ("identifier", .str "word"), ("operator", .str "eq"),
          ("regex", .str "katt"), ("regex_flags", .arr [.str "fuzzy"])])]])]])]

/-- A triple whose operator carries a modifier without a name. -/
def namelessModifier : Json :=
  .obj [("type", .str "triple"), ("operator",
      .obj [("value", .str "and"), ("modifiers", .arr [.obj [("value", .str "1")]])]),
    ("left", .obj [("type", .str "search_clause"), ("term", .str "katt")]),
    ("right", .obj [("type", .str "search_clause"), ("term", .str "hund")])]

theorem reading_exact_illFormed :
    ReflTransGen Part.Holds ⟨.fcsNode, unknownFlag⟩ ⟨.flag, .str "fuzzy"⟩ ∧
    ¬ Part.WellFormed ⟨.flag, .str "fuzzy"⟩ ∧
    Fcs.Node.ofJson? unknownFlag = none ∧
    ReflTransGen Part.Holds ⟨.cqlNode, namelessModifier⟩
      ⟨.modifier, .obj [("value", .str "1")]⟩ ∧
    ¬ Part.WellFormed ⟨.modifier, .obj [("value", .str "1")]⟩ ∧
    Cql.Node.ofJson? namelessModifier = none := by
  -- from the sequence to the disjunction, the segment, its expression and the flag
  have hflag : ReflTransGen Part.Holds ⟨.fcsNode, unknownFlag⟩ ⟨.flag, .str "fuzzy"⟩ := by
    refine .tail (.tail (.tail (.single (.child (.inl rfl) ?_ rfl (.head _)))
      (.child (.inr rfl) ?_ rfl (.head _))) (.segmentExpression ?_ rfl)) (.flag ?_ rfl (.head _))
    all_goals rfl
  have hnoFlag : ¬ Part.WellFormed ⟨.flag, .str "fuzzy"⟩ := by
    rintro ⟨flag, hflag⟩
    cases flag <;> simp [Fcs.RegexFlag.word] at hflag
  have hmodifier : ReflTransGen Part.Holds ⟨.cqlNode, namelessModifier⟩
      ⟨.modifier, .obj [("value", .str "1")]⟩ :=
    .tail (.single (.tripleOperator rfl rfl)) (.modifier rfl (.head _))
  have hnoModifier : ¬ Part.WellFormed ⟨.modifier, .obj [("value", .str "1")]⟩ := by
    rintro ⟨modifier, hname, -, -⟩
    simp [Json.get?] at hname
  obtain ⟨-, -, -, hfcs, hcql⟩ := reading_exact
  exact ⟨hflag, hnoFlag, hfcs _ _ hflag hnoFlag, hmodifier, hnoModifier,
    hcql _ _ hmodifier hnoModifier⟩

end CorpusQuery.Query
