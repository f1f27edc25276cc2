/-
  CorpusQuery.Proofs.Query.RoundTrip

  Queries are recovered from their JSON form: from the value, whatever the
  query holds, and from the compact text as well if it does not nest deeper
  than the strict reader goes.
-/
import CorpusQuery.Proofs.Json.Members
import CorpusQuery.Proofs.Json.Printed
import CorpusQuery.Query.Basic

namespace CorpusQuery

open Json (lookup text? optionalText? list? countOrOne? text?_of_lookup optionalText?_of_lookup
  list?_of_lookup countOrOne?_of_lookup)

/-- Reading what was written of each item of a list recovers the list. -/
theorem mapM_map_of_inverse {α β : Type} {write : α → β} {read : β → Option α} {xs : List α}
    (h : ∀ x ∈ xs, read (write x) = some x) : (xs.map write).mapM read = some xs := by
  induction xs with
  | nil => rfl
  | cons x rest ih =>
      obtain ⟨hx, hrest⟩ := List.forall_mem_cons.mp h
      rw [List.map_cons, List.mapM_cons, hx, ih hrest]
      rfl

/-! ## Basic search -/

namespace Cql

theorem Modifier.ofJson?_toJson (modifier : Modifier) :
    Modifier.ofJson? modifier.toJson = some modifier := by
  have hname : text? modifier.toJson "name" = some modifier.name :=
    text?_of_lookup (by simp)
  have hcomparison : optionalText? modifier.toJson "comparison" = some modifier.comparison :=
    optionalText?_of_lookup (by simp)
  have hvalue : optionalText? modifier.toJson "value" = some modifier.value :=
    optionalText?_of_lookup (by simp)
  rw [Modifier.ofJson?, hname, hcomparison, hvalue]
  rfl

theorem Operator.ofJson?_toJson (operator : Operator) :
    Operator.ofJson? operator.toJson = some operator := by
  have hvalue : text? operator.toJson "value" = some operator.value.word :=
    text?_of_lookup (by simp)
  have hlist : list? operator.toJson "modifiers" = some (operator.modifiers.map Modifier.toJson) :=
    list?_of_lookup (by simp)
  have hmodifiers : (operator.modifiers.map Modifier.toJson).mapM Modifier.ofJson?
      = some operator.modifiers :=
    mapM_map_of_inverse fun modifier _ => Modifier.ofJson?_toJson modifier
  rw [Operator.ofJson?, hvalue, hlist]
  show (Boolean.ofWord? operator.value.word).bind _ = _
  rw [Boolean.ofWord?_word]
  show ((operator.modifiers.map Modifier.toJson).mapM Modifier.ofJson?).bind _ = _
  rw [hmodifiers]
  rfl

theorem Node.ofJson?_toJson (node : Node) : Node.ofJson? node.toJson = some node := by
  induction node with
  | triple operator left right hleft hright =>
      have htype : text? (Node.triple operator left right).toJson "type" = some "triple" :=
        text?_of_lookup (by simp)
      have hoperator : (Node.triple operator left right).toJson.get? "operator"
          = some operator.toJson := by simp [Node.toJson, Json.get?]
      -- The operands are read as parts, which carry the proof that they are smaller.
      have hleftPart : (Node.triple operator left right).toJson.get? "left" = some left.toJson := by
        simp [Node.toJson, Json.get?]
      have hrightPart : (Node.triple operator left right).toJson.get? "right"
          = some right.toJson := by simp [Node.toJson, Json.get?]
      rw [Node.ofJson?, htype, hoperator, Json.part?_of_get? hleftPart,
        Json.part?_of_get? hrightPart]
      show (Operator.ofJson? operator.toJson).bind _ = _
      rw [Operator.ofJson?_toJson]
      show (Node.ofJson? left.toJson).bind _ = _
      rw [hleft]
      show (Node.ofJson? right.toJson).bind _ = _
      rw [hright]
      rfl
  | searchClause index relation term =>
      have htype : text? (Node.searchClause index relation term).toJson "type"
          = some "search_clause" := text?_of_lookup (by simp)
      have hindex : optionalText? (Node.searchClause index relation term).toJson "index"
          = some index := optionalText?_of_lookup (by simp)
      have hrelation : optionalText? (Node.searchClause index relation term).toJson "relation"
          = some relation := optionalText?_of_lookup (by simp)
      have hterm : text? (Node.searchClause index relation term).toJson "term" = some term :=
        text?_of_lookup (by simp)
      rw [Node.ofJson?, htype, hindex, hrelation, hterm]
      rfl

end Cql

/-! ## Advanced search -/

namespace Fcs

/-- A simple expression is read from an object that has its members, and may have a type. -/
theorem SimpleExpression.ofJson?_members (expression : SimpleExpression) (type : String) :
    SimpleExpression.ofJson? (.obj (("type", .str type) :: expression.members))
      = some expression := by
  have hidentifier : text? (.obj (("type", .str type) :: expression.members)) "identifier"
      = some expression.identifier := text?_of_lookup (by simp [members])
  have hqualifier : optionalText? (.obj (("type", .str type) :: expression.members)) "qualifier"
      = some expression.qualifier := optionalText?_of_lookup (by simp [members])
  have hoperator : text? (.obj (("type", .str type) :: expression.members)) "operator"
      = some expression.operator.word := text?_of_lookup (by simp [members])
  have hregex : text? (.obj (("type", .str type) :: expression.members)) "regex"
      = some expression.regex := text?_of_lookup (by simp [members])
  -- Without flags the list is left out, which is read as no flags.
  have hlist : list? (.obj (("type", .str type) :: expression.members)) "regex_flags"
      = some (expression.flags.toList.map fun flag => .str flag.word) :=
    list?_of_lookup (by simp [members])
  have hflags : (expression.flags.toList.map fun flag => Json.str flag.word).mapM
      RegexFlag.ofJson? = some expression.flags.toList :=
    mapM_map_of_inverse fun flag _ => RegexFlag.ofWord?_word flag
  rw [SimpleExpression.ofJson?, hidentifier, hqualifier, hoperator, hregex, hlist]
  show (Operator.ofWord? expression.operator.word).bind _ = _
  rw [Operator.ofWord?_word]
  show ((expression.flags.toList.map fun flag => Json.str flag.word).mapM
    RegexFlag.ofJson?).bind _ = _
  rw [hflags]
  show some (⟨_, _, _, _, FlagSet.ofList expression.flags.toList⟩ : SimpleExpression) = _
  rw [FlagSet.ofList_toList]

/-- A member that is a list is read by reading its items. -/
theorem bind_part?_items? {α β : Type} {value : Json} {name : String} {items : List Json}
    {read : Json → Option α} {results : List α} (wrap : List α → β)
    (hget : value.get? name = some (.arr items)) (hread : items.mapM read = some results) :
    ((value.part? name).bind fun list => list.1.items?.bind fun parts =>
      (parts.mapM fun part => read part.1).bind fun results => some (wrap results))
        = some (wrap results) := by
  rw [Json.bind_list?, hget, Option.bind_some]
  exact congrArg (Option.map wrap) hread

mutual

theorem Expression.ofJson?_toJson (expression : Expression) :
    Expression.ofJson? expression.toJson = some expression := by
  cases expression with
  | simple body =>
      have htype : text? (Expression.simple body).toJson "type" = some "simple" :=
        text?_of_lookup (by simp [SimpleExpression.members])
      rw [Expression.ofJson?, htype]
      show (SimpleExpression.ofJson? (.obj (("type", .str "simple") :: body.members))).map _ = _
      rw [SimpleExpression.ofJson?_members]
      rfl
  | and operands =>
      have htype : text? (Expression.and operands).toJson "type" = some "and" :=
        text?_of_lookup (by simp)
      have hpart : (Expression.and operands).toJson.get? "operands"
          = some (.arr (Expression.listToJson operands)) := by simp [Expression.toJson, Json.get?]
      rw [Expression.ofJson?, htype]
      exact bind_part?_items? Expression.and hpart (Expression.mapM_ofJson?_listToJson operands)
  | or operands =>
      have htype : text? (Expression.or operands).toJson "type" = some "or" :=
        text?_of_lookup (by simp)
      have hpart : (Expression.or operands).toJson.get? "operands"
          = some (.arr (Expression.listToJson operands)) := by simp [Expression.toJson, Json.get?]
      rw [Expression.ofJson?, htype]
      exact bind_part?_items? Expression.or hpart (Expression.mapM_ofJson?_listToJson operands)
  | not operand =>
      have htype : text? (Expression.not operand).toJson "type" = some "not" :=
        text?_of_lookup (by simp)
      have hpart : (Expression.not operand).toJson.get? "operand" = some operand.toJson := by
        simp [Expression.toJson, Json.get?]
      have hoperand := Expression.ofJson?_toJson operand
      rw [Expression.ofJson?, htype, Json.part?_of_get? hpart]
      show (Expression.ofJson? operand.toJson).bind _ = _
      rw [hoperand]
      rfl
  | group body =>
      have htype : text? (Expression.group body).toJson "type" = some "group" :=
        text?_of_lookup (by simp)
      have hpart : (Expression.group body).toJson.get? "expression" = some body.toJson := by
        simp [Expression.toJson, Json.get?]
      have hbody := Expression.ofJson?_toJson body
      rw [Expression.ofJson?, htype, Json.part?_of_get? hpart]
      show (Expression.ofJson? body.toJson).bind _ = _
      rw [hbody]
      rfl
  | wildcard =>
      have htype : text? Expression.wildcard.toJson "type" = some "wildcard" :=
        text?_of_lookup (by simp)
      rw [Expression.ofJson?, htype]
      rfl
termination_by structural expression

theorem Expression.mapM_ofJson?_listToJson (operands : List Expression) :
    (Expression.listToJson operands).mapM Expression.ofJson? = some operands := by
  cases operands with
  | nil => rfl
  | cons operand rest =>
      have hoperand := Expression.ofJson?_toJson operand
      have hrest := Expression.mapM_ofJson?_listToJson rest
      rw [Expression.listToJson, List.mapM_cons, hoperand, hrest]
      rfl
termination_by structural operands

end

theorem Segment.ofJson?_members (segment : Segment) (type : String) :
    Segment.ofJson? (.obj (("type", .str type) :: segment.members)) = some segment := by
  have hexpression : (Json.obj (("type", .str type) :: segment.members)).get? "expression"
      = some segment.expression.toJson := by simp [members, boundMembers, Json.get?]
  have hmin : countOrOne? (.obj (("type", .str type) :: segment.members)) "min_occurs"
      = some segment.minOccurs := countOrOne?_of_lookup (by simp [members, boundMembers])
  have hmax : countOrOne? (.obj (("type", .str type) :: segment.members)) "max_occurs"
      = some segment.maxOccurs := countOrOne?_of_lookup (by simp [members, boundMembers])
  rw [Segment.ofJson?, hexpression, hmin, hmax]
  show (Expression.ofJson? segment.expression.toJson).bind _ = _
  rw [Expression.ofJson?_toJson]
  rfl

mutual

theorem Node.ofJson?_toJson (node : Node) : Node.ofJson? node.toJson = some node := by
  cases node with
  | sequence children =>
      have htype : text? (Node.sequence children).toJson "type" = some "sequence" :=
        text?_of_lookup (by simp)
      have hpart : (Node.sequence children).toJson.get? "children"
          = some (.arr (Node.listToJson children)) := by simp [Node.toJson, Json.get?]
      rw [Node.ofJson?, htype]
      exact bind_part?_items? Node.sequence hpart (Node.mapM_ofJson?_listToJson children)
  | segment body =>
      have htype : text? (Node.segment body).toJson "type" = some "segment" :=
        text?_of_lookup (by simp [Segment.members, boundMembers])
      rw [Node.ofJson?, htype]
      show (Segment.ofJson? (.obj (("type", .str "segment") :: body.members))).map _ = _
      rw [Segment.ofJson?_members]
      rfl
  | disjunction children =>
      have htype : text? (Node.disjunction children).toJson "type" = some "disjunction" :=
        text?_of_lookup (by simp)
      have hpart : (Node.disjunction children).toJson.get? "children"
          = some (.arr (Node.listToJson children)) := by simp [Node.toJson, Json.get?]
      rw [Node.ofJson?, htype]
      exact bind_part?_items? Node.disjunction hpart (Node.mapM_ofJson?_listToJson children)
  | group query minOccurs maxOccurs =>
      have htype : text? (Node.group query minOccurs maxOccurs).toJson "type" = some "group" :=
        text?_of_lookup (by simp [boundMembers])
      have hpart : (Node.group query minOccurs maxOccurs).toJson.get? "query"
          = some query.toJson := by simp [Node.toJson, boundMembers, Json.get?]
      have hmin : countOrOne? (Node.group query minOccurs maxOccurs).toJson "min_occurs"
          = some minOccurs := countOrOne?_of_lookup (by simp [boundMembers])
      have hmax : countOrOne? (Node.group query minOccurs maxOccurs).toJson "max_occurs"
          = some maxOccurs := countOrOne?_of_lookup (by simp [boundMembers])
      have hquery := Node.ofJson?_toJson query
      rw [Node.ofJson?, htype, Json.part?_of_get? hpart, hmin, hmax]
      show (Node.ofJson? query.toJson).bind _ = _
      rw [hquery]
      rfl
  | withWithin query scope =>
      have htype : text? (Node.withWithin query scope).toJson "type" = some "with_within" :=
        text?_of_lookup (by simp)
      have hpart : (Node.withWithin query scope).toJson.get? "query" = some query.toJson := by
        simp [Node.toJson, Json.get?]
      have hscope : text? (Node.withWithin query scope).toJson "scope" = some scope.word :=
        text?_of_lookup (by simp)
      have hquery := Node.ofJson?_toJson query
      rw [Node.ofJson?, htype, Json.part?_of_get? hpart, hscope]
      show (Node.ofJson? query.toJson).bind _ = _
      rw [hquery]
      show (WithinScope.ofWord? scope.word).bind _ = _
      rw [WithinScope.ofWord?_word]
      rfl
termination_by structural node

theorem Node.mapM_ofJson?_listToJson (children : List Node) :
    (Node.listToJson children).mapM Node.ofJson? = some children := by
  cases children with
  | nil => rfl
  | cons child rest =>
      have hchild := Node.ofJson?_toJson child
      have hrest := Node.mapM_ofJson?_listToJson rest
      rw [Node.listToJson, List.mapM_cons, hchild, hrest]
      rfl
termination_by structural children

end

end Fcs

/-! ## Numbers in queries -/

namespace Json

/-- A count has 32 bits, so that its text is never out of range. -/
theorem numbersReadBack_ofCount (n : UInt32) : (ofCount n).NumbersReadBack := by
  have hlt : n.toNat < Nat.pow 2 53 := Nat.lt_trans n.toNat_lt_size (by decide)
  show (Number.int n.toNat).ReadsBack
  exact Number.readsBack_ofNat hlt

theorem memberNumbersReadBack_append {front rest : List (String × Json)}
    (hfront : MemberNumbersReadBack front) (hrest : MemberNumbersReadBack rest) :
    MemberNumbersReadBack (front ++ rest) := by
  induction front with
  | nil => exact hrest
  | cons member front ih =>
      obtain ⟨hvalue, hfront⟩ := hfront
      exact ⟨hvalue, ih hfront⟩

theorem memberNumbersReadBack_optionalMember (name : String) (text : Option String) :
    MemberNumbersReadBack (optionalMember name text) := by
  cases text with
  | none => exact trivial
  | some text => exact ⟨trivial, trivial⟩

theorem memberNumbersReadBack_listMember (name : String) {items : List Json}
    (h : ItemNumbersReadBack items) : MemberNumbersReadBack (listMember name items) := by
  cases items with
  | nil => exact trivial
  | cons item rest => exact ⟨h, trivial⟩

theorem itemNumbersReadBack_map {α : Type} {write : α → Json} {xs : List α}
    (h : ∀ x ∈ xs, (write x).NumbersReadBack) : ItemNumbersReadBack (xs.map write) := by
  induction xs with
  | nil => exact trivial
  | cons x rest ih =>
      obtain ⟨hx, hrest⟩ := List.forall_mem_cons.mp h
      exact ⟨hx, ih hrest⟩

end Json

open Json (NumbersReadBack ItemNumbersReadBack MemberNumbersReadBack numbersReadBack_ofCount
  memberNumbersReadBack_append memberNumbersReadBack_optionalMember
  memberNumbersReadBack_listMember itemNumbersReadBack_map)

namespace Cql

theorem Modifier.numbersReadBack_toJson (modifier : Modifier) :
    modifier.toJson.NumbersReadBack := by
  have hcomparison := memberNumbersReadBack_optionalMember "comparison" modifier.comparison
  have hvalue := memberNumbersReadBack_optionalMember "value" modifier.value
  exact ⟨trivial, memberNumbersReadBack_append hcomparison hvalue⟩

theorem Operator.numbersReadBack_toJson (operator : Operator) :
    operator.toJson.NumbersReadBack := by
  have hmodifiers : ItemNumbersReadBack (operator.modifiers.map Modifier.toJson) :=
    itemNumbersReadBack_map fun modifier _ => modifier.numbersReadBack_toJson
  exact ⟨trivial, memberNumbersReadBack_listMember "modifiers" hmodifiers⟩

theorem Node.numbersReadBack_toJson (node : Node) : node.toJson.NumbersReadBack := by
  induction node with
  | triple operator left right hleft hright =>
      exact ⟨trivial, operator.numbersReadBack_toJson, hleft, hright, trivial⟩
  | searchClause index relation term =>
      have hindex := memberNumbersReadBack_optionalMember "index" index
      have hrelation := memberNumbersReadBack_optionalMember "relation" relation
      have hscope := memberNumbersReadBack_append hindex hrelation
      exact ⟨trivial, memberNumbersReadBack_append hscope ⟨trivial, trivial⟩⟩

end Cql

namespace Fcs

theorem SimpleExpression.numbersReadBack_members (expression : SimpleExpression) :
    MemberNumbersReadBack expression.members := by
  have hqualifier := memberNumbersReadBack_optionalMember "qualifier" expression.qualifier
  have hflags : ItemNumbersReadBack (expression.flags.toList.map fun flag => .str flag.word) :=
    itemNumbersReadBack_map fun _ _ => trivial
  have htexts : MemberNumbersReadBack
      [("operator", .str expression.operator.word), ("regex", .str expression.regex)] :=
    ⟨trivial, trivial, trivial⟩
  have hfront := memberNumbersReadBack_append hqualifier htexts
  have hlast := memberNumbersReadBack_listMember "regex_flags" hflags
  exact ⟨trivial, memberNumbersReadBack_append hfront hlast⟩

mutual

theorem Expression.numbersReadBack_toJson (expression : Expression) :
    expression.toJson.NumbersReadBack := by
  cases expression with
  | simple body => exact ⟨trivial, body.numbersReadBack_members⟩
  | and operands => exact ⟨trivial, Expression.numbersReadBack_listToJson operands, trivial⟩
  | or operands => exact ⟨trivial, Expression.numbersReadBack_listToJson operands, trivial⟩
  | not operand => exact ⟨trivial, operand.numbersReadBack_toJson, trivial⟩
  | group body => exact ⟨trivial, body.numbersReadBack_toJson, trivial⟩
  | wildcard => exact ⟨trivial, trivial⟩
termination_by structural expression

theorem Expression.numbersReadBack_listToJson (operands : List Expression) :
    ItemNumbersReadBack (Expression.listToJson operands) := by
  cases operands with
  | nil => exact trivial
  | cons operand rest =>
      exact ⟨operand.numbersReadBack_toJson, Expression.numbersReadBack_listToJson rest⟩
termination_by structural operands

end

theorem numbersReadBack_boundMembers (minOccurs maxOccurs : UInt32) :
    MemberNumbersReadBack (boundMembers minOccurs maxOccurs) :=
  ⟨numbersReadBack_ofCount minOccurs, numbersReadBack_ofCount maxOccurs, trivial⟩

mutual

theorem Node.numbersReadBack_toJson (node : Node) : node.toJson.NumbersReadBack := by
  cases node with
  | sequence children => exact ⟨trivial, Node.numbersReadBack_listToJson children, trivial⟩
  | segment body =>
      exact ⟨trivial, body.expression.numbersReadBack_toJson,
        numbersReadBack_boundMembers body.minOccurs body.maxOccurs⟩
  | disjunction children => exact ⟨trivial, Node.numbersReadBack_listToJson children, trivial⟩
  | group query minOccurs maxOccurs =>
      exact ⟨trivial, query.numbersReadBack_toJson,
        numbersReadBack_boundMembers minOccurs maxOccurs⟩
  | withWithin query scope => exact ⟨trivial, query.numbersReadBack_toJson, trivial, trivial⟩
termination_by structural node

theorem Node.numbersReadBack_listToJson (children : List Node) :
    ItemNumbersReadBack (Node.listToJson children) := by
  cases children with
  | nil => exact trivial
  | cons child rest =>
      exact ⟨child.numbersReadBack_toJson, Node.numbersReadBack_listToJson rest⟩
termination_by structural children

end

end Fcs

/-! ## Whole queries -/

namespace Query

theorem numbersReadBack_treeToJson (query : Query) : query.treeToJson.NumbersReadBack := by
  cases query with
  | cql tree => exact tree.numbersReadBack_toJson
  | fcs tree => exact tree.numbersReadBack_toJson

theorem numbersReadBack_toJson (query : Query) : query.toJson.NumbersReadBack :=
  ⟨trivial, query.numbersReadBack_treeToJson, trivial⟩

/-- A tree is read back as a query of its language. -/
theorem ofTree?_treeToJson (query : Query) : ofTree? query.type query.treeToJson = some query := by
  cases query with
  | cql tree =>
      show (Cql.Node.ofJson? tree.toJson).map cql = some (cql tree)
      rw [Cql.Node.ofJson?_toJson]
      rfl
  | fcs tree =>
      show (Fcs.Node.ofJson? tree.toJson).map fcs = some (fcs tree)
      rw [Fcs.Node.ofJson?_toJson]
      rfl

theorem ofJson?_toJson (query : Query) : ofJson? query.toJson = some query := by
  have htype : text? query.toJson "query_type" = some query.type.word :=
    text?_of_lookup (by simp)
  have htree : query.toJson.get? "tree" = some query.treeToJson := by
    simp [toJson, Json.get?]
  rw [ofJson?, htype, htree]
  show (QueryType.ofWord? query.type.word).bind _ = _
  rw [QueryType.ofWord?_word]
  exact query.ofTree?_treeToJson

/-- Every query is recovered from its JSON value, and from its JSON text as well if that does not
nest deeper than the strict reader goes. -/
theorem recovered_from_json (query : Query) :
    ofJson? query.toJson = some query ∧
      (query.toJson.depth ≤ Json.depthLimit →
        (Json.parse query.toJson.compact).bind ofJson? = some query) := by
  refine ⟨query.ofJson?_toJson, ?_⟩
  intro hdepth
  rw [Json.parse_compact hdepth query.numbersReadBack_toJson]
  exact query.ofJson?_toJson

/-- A query with quotes, backslashes, control characters and bounds out of order. -/
def awkward : Query :=
  .fcs (.group (.segment ⟨.not (.simple ⟨"word", some "a\"b", .notEquals, "\\d\n\x01",
    .ofList [.ignoreDiacritics, .caseInsensitive]⟩), 7, 0⟩) 0 4294967295)

theorem recovered_from_json_awkward :
    awkward.toJson.depth ≤ Json.depthLimit ∧
      (Json.parse awkward.toJson.compact).bind ofJson? = some awkward := by
  have hdepth : awkward.toJson.depth ≤ Json.depthLimit := by decide
  exact ⟨hdepth, (recovered_from_json awkward).2 hdepth⟩

end Query

end CorpusQuery
