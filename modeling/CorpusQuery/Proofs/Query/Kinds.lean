/-
  CorpusQuery.Proofs.Query.Kinds

  The kinds of objects in the JSON form of a query, each with its own fields and
  the form of each field. What a value is read as depends on the fields of its
  kind and on nothing else: two values whose fields are read alike are read
  alike.
-/
import CorpusQuery.Proofs.Cql.Grammar
import CorpusQuery.Proofs.Fcs.Grammar
import CorpusQuery.Query.Input

namespace CorpusQuery.Query

open Json (text? optionalText? list? countOrOne? readItems? text?_eq_some_iff)

/-! ## Kinds and fields -/

/-- The kinds of objects in the JSON form of a query. -/
inductive Kind where
  | envelope
  | fcsNode
  | expression
  | cqlNode
  | operator
  | modifier
  deriving DecidableEq, Repr

/-- The forms of fields. -/
inductive Form where
  /-- a value that is taken as it is: a text, or a word of some kind -/
  | exact
  /-- a text that may be missing or null -/
  | optionalText
  /-- a count that stands for one where it is missing -/
  | count
  /-- a list of flags that may be missing, of which only the set counts -/
  | flags
  /-- an object -/
  | part (kind : Kind)
  /-- a list of objects -/
  | items (kind : Kind)
  /-- a list of objects that may be missing -/
  | optionalItems (kind : Kind)
  deriving DecidableEq, Repr

namespace Kind

/-- The word that tells the objects of one kind apart. -/
def word? : Kind → Json → Option String
  | .envelope, json => text? json "query_type"
  | _, json => text? json "type"

/-- The fields of the objects of a kind with a word. -/
def fields : Kind → Option String → List (String × Form)
  | .envelope, word => ("query_type", .exact) ::
    match word with
    | some "cql" => [("tree", .part .cqlNode)]
    | some "fcs" => [("tree", .part .fcsNode)]
    | _ => []
  | .fcsNode, word => ("type", .exact) ::
    match word with
    | some "sequence" => [("children", .items .fcsNode)]
    | some "segment" =>
      [("expression", .part .expression), ("min_occurs", .count), ("max_occurs", .count)]
    | some "disjunction" => [("children", .items .fcsNode)]
    | some "group" =>
      [("query", .part .fcsNode), ("min_occurs", .count), ("max_occurs", .count)]
    | some "with_within" => [("query", .part .fcsNode), ("scope", .exact)]
    | _ => []
  | .expression, word => ("type", .exact) ::
    match word with
    | some "simple" =>
      [("identifier", .exact), ("qualifier", .optionalText), ("operator", .exact),
        ("regex", .exact), ("regex_flags", .flags)]
    | some "and" => [("operands", .items .expression)]
    | some "or" => [("operands", .items .expression)]
    | some "not" => [("operand", .part .expression)]
    | some "group" => [("expression", .part .expression)]
    | _ => []
  | .cqlNode, word => ("type", .exact) ::
    match word with
    | some "triple" =>
      [("operator", .part .operator), ("left", .part .cqlNode), ("right", .part .cqlNode)]
    | some "search_clause" =>
      [("index", .optionalText), ("relation", .optionalText), ("term", .exact)]
    | _ => []
  | .operator, _ => [("value", .exact), ("modifiers", .optionalItems .modifier)]
  | .modifier, _ => [("name", .exact), ("comparison", .optionalText), ("value", .optionalText)]

/-- The form of a field of a value. Members that are no fields have none. -/
def field? (kind : Kind) (json : Json) (name : String) : Option Form :=
  (kind.fields (kind.word? json)).lookup name

theorem field?_of_word {kind : Kind} {json : Json} {word : String}
    (h : kind.word? json = some word) (name : String) :
    kind.field? json name = (kind.fields (some word)).lookup name := by
  rw [field?, h]

/-! ## Reading -/

/-- What an object of the kind is read as. -/
def Result : Kind → Type
  | .envelope => Query
  | .fcsNode => Fcs.Node
  | .expression => Fcs.Expression
  | .cqlNode => Cql.Node
  | .operator => Cql.Operator
  | .modifier => Cql.Modifier

/-- Reads an object of the kind. -/
def read : (kind : Kind) → Json → Option kind.Result
  | .envelope => Query.ofJson?
  | .fcsNode => Fcs.Node.ofJson?
  | .expression => Fcs.Expression.ofJson?
  | .cqlNode => Cql.Node.ofJson?
  | .operator => Cql.Operator.ofJson?
  | .modifier => Cql.Modifier.ofJson?

end Kind

/-- Reads a list of flags as the set of them. -/
def readFlags? (items : List Json) : Option Fcs.FlagSet :=
  (items.mapM Fcs.RegexFlag.ofJson?).map Fcs.FlagSet.ofList

/-- The field is read alike in both values. -/
def Form.Alike (name : String) (value other : Json) : Form → Prop
  | .exact => other.get? name = value.get? name
  | .optionalText => optionalText? other name = optionalText? value name
  | .count => countOrOne? other name = countOrOne? value name
  | .flags => (list? other name).bind readFlags? = (list? value name).bind readFlags?
  | .part kind => (other.get? name).bind kind.read = (value.get? name).bind kind.read
  | .items kind => (other.get? name).bind (readItems? kind.read) =
      (value.get? name).bind (readItems? kind.read)
  | .optionalItems kind => ((list? other name).bind fun items => items.mapM kind.read) =
      (list? value name).bind fun items => items.mapM kind.read

theorem text?_congr {value other : Json} {name : String}
    (h : other.get? name = value.get? name) : text? other name = text? value name := by
  rw [text?, h, text?]

/-- Every field of the value is read alike in the other. -/
def Kind.Alike (kind : Kind) (value other : Json) : Prop :=
  ∀ name form, kind.field? value name = some form → form.Alike name value other

/-! ## Values that are read alike -/

/-- Two values that a reader does not tell apart have the same later steps. -/
theorem bind_bind_congr {α β γ : Type} {first second : Option α} {read : α → Option β}
    (h : second.bind read = first.bind read) (next : β → Option γ) :
    (second.bind fun x => (read x).bind next) = first.bind fun x => (read x).bind next := by
  rw [← Option.bind_assoc, h, Option.bind_assoc]

theorem bind_map_congr {α β γ : Type} {first second : Option α} {read : α → Option β}
    (h : second.bind read = first.bind read) (wrap : β → γ) :
    (second.bind fun x => (read x).map wrap) = first.bind fun x => (read x).map wrap := by
  simp only [Option.map_eq_bind]
  exact bind_bind_congr h _

theorem bind_flags_congr {γ : Type} {name : String} {value other : Json}
    (h : (list? other name).bind readFlags? = (list? value name).bind readFlags?)
    (next : Fcs.FlagSet → Option γ) :
    ((list? other name).bind fun items => (items.mapM Fcs.RegexFlag.ofJson?).bind fun flags =>
      next (.ofList flags)) =
    (list? value name).bind fun items => (items.mapM Fcs.RegexFlag.ofJson?).bind fun flags =>
      next (.ofList flags) := by
  have hread : ∀ items : List Json, ((items.mapM Fcs.RegexFlag.ofJson?).bind fun flags =>
      next (.ofList flags)) = (readFlags? items).bind next :=
    fun items => (Option.bind_map ..).symm
  simp only [hread]
  exact bind_bind_congr h next

/-- A reader that asks for one of some types finds nothing in two values of one other type. -/
theorem read_of_unknown {α : Type} {read : Json → Option α} {words : List String}
    {value other : Json}
    (hknown : ∀ json x, read json = some x → ∃ word ∈ words, json.get? "type" = some (.str word))
    (htype : other.get? "type" = value.get? "type")
    (h : ¬ ∃ word ∈ words, value.get? "type" = some (.str word)) : read other = read value := by
  have hnone : ∀ json : Json, json.get? "type" = value.get? "type" → read json = none := by
    intro json hjson
    refine Option.eq_none_iff_forall_ne_some.mpr fun x hread => h ?_
    rw [← hjson]
    exact hknown json x hread
  rw [hnone other htype, hnone value rfl]

namespace Kind.Alike

/-! ### One lemma for each kind

A reader is opened at the word of its object, and then reads nothing but fields. -/

variable {value other : Json}

theorem read_modifier (h : Kind.modifier.Alike value other) :
    Cql.Modifier.ofJson? other = Cql.Modifier.ofJson? value := by
  have hname := text?_congr (h "name" .exact rfl)
  have hcomparison : optionalText? other "comparison" = optionalText? value "comparison" :=
    h "comparison" .optionalText rfl
  have hvalue : optionalText? other "value" = optionalText? value "value" :=
    h "value" .optionalText rfl
  rw [Cql.Modifier.ofJson?, hname, hcomparison, hvalue, Cql.Modifier.ofJson?]

theorem read_operator (h : Kind.operator.Alike value other) :
    Cql.Operator.ofJson? other = Cql.Operator.ofJson? value := by
  have hvalue := text?_congr (h "value" .exact rfl)
  have hmodifiers : ((list? other "modifiers").bind fun items => items.mapM Cql.Modifier.ofJson?) =
      (list? value "modifiers").bind fun items => items.mapM Cql.Modifier.ofJson? :=
    h "modifiers" (.optionalItems .modifier) rfl
  rw [Cql.Operator.ofJson?, hvalue, Cql.Operator.ofJson?]
  refine congrArg (Option.bind _) (funext fun word => ?_)
  refine congrArg (Option.bind _) (funext fun boolean => ?_)
  exact bind_bind_congr hmodifiers _

/-- The fields of an object whose word is known. -/
theorem field {kind : Kind} {word : String} (h : kind.Alike value other)
    (hword : kind.word? value = some word) (name : String) (form : Form)
    (hform : (kind.fields (some word)).lookup name = some form) : form.Alike name value other :=
  h name form ((Kind.field?_of_word hword name).trans hform)

theorem read_simple (h : Kind.expression.Alike value other)
    (htype : value.get? "type" = some (.str "simple")) :
    Fcs.SimpleExpression.ofJson? other = Fcs.SimpleExpression.ofJson? value := by
  have hword : Kind.expression.word? value = some "simple" := text?_eq_some_iff.mpr htype
  have hidentifier := text?_congr (h.field hword "identifier" .exact rfl)
  have hqualifier : optionalText? other "qualifier" = optionalText? value "qualifier" :=
    h.field hword "qualifier" .optionalText rfl
  have hoperator := text?_congr (h.field hword "operator" .exact rfl)
  have hregex := text?_congr (h.field hword "regex" .exact rfl)
  have hflags := h.field hword "regex_flags" .flags rfl
  rw [Fcs.SimpleExpression.ofJson?, hidentifier, hqualifier, hoperator, hregex,
    Fcs.SimpleExpression.ofJson?]
  refine congrArg (Option.bind _) (funext fun identifier => ?_)
  refine congrArg (Option.bind _) (funext fun qualifier => ?_)
  refine congrArg (Option.bind _) (funext fun operator => ?_)
  refine congrArg (Option.bind _) (funext fun regex => ?_)
  exact bind_flags_congr hflags fun flags =>
    some (⟨identifier, qualifier, operator, regex, flags⟩ : Fcs.SimpleExpression)

theorem read_expression (h : Kind.expression.Alike value other) :
    Fcs.Expression.ofJson? other = Fcs.Expression.ofJson? value := by
  have htype : other.get? "type" = value.get? "type" := h "type" .exact rfl
  by_cases hkind : ∃ word ∈ ["simple", "and", "or", "not", "group", "wildcard"],
      value.get? "type" = some (.str word)
  · obtain ⟨word, hmem, hvalue⟩ := hkind
    have hother := htype.trans hvalue
    have hword : Kind.expression.word? value = some word := text?_eq_some_iff.mpr hvalue
    simp only [List.mem_cons, List.not_mem_nil, or_false] at hmem
    obtain rfl | rfl | rfl | rfl | rfl | rfl := hmem
    · rw [Fcs.Expression.ofJson?_simple hother, Fcs.Expression.ofJson?_simple hvalue,
        h.read_simple hvalue]
    · rw [Fcs.Expression.ofJson?_and hother, Fcs.Expression.ofJson?_and hvalue]
      exact bind_map_congr (h.field hword "operands" (.items .expression) rfl) _
    · rw [Fcs.Expression.ofJson?_or hother, Fcs.Expression.ofJson?_or hvalue]
      exact bind_map_congr (h.field hword "operands" (.items .expression) rfl) _
    · rw [Fcs.Expression.ofJson?_not hother, Fcs.Expression.ofJson?_not hvalue]
      exact bind_map_congr (h.field hword "operand" (.part .expression) rfl) _
    · rw [Fcs.Expression.ofJson?_group hother, Fcs.Expression.ofJson?_group hvalue]
      exact bind_map_congr (h.field hword "expression" (.part .expression) rfl) _
    · rw [Fcs.Expression.ofJson?_wildcard hother, Fcs.Expression.ofJson?_wildcard hvalue]
  · exact read_of_unknown (fun _ _ => Fcs.Expression.type_of_ofJson?) htype hkind

theorem read_fcsNode (h : Kind.fcsNode.Alike value other) :
    Fcs.Node.ofJson? other = Fcs.Node.ofJson? value := by
  have htype : other.get? "type" = value.get? "type" := h "type" .exact rfl
  by_cases hkind : ∃ word ∈ ["sequence", "segment", "disjunction", "group", "with_within"],
      value.get? "type" = some (.str word)
  · obtain ⟨word, hmem, hvalue⟩ := hkind
    have hother := htype.trans hvalue
    have hword : Kind.fcsNode.word? value = some word := text?_eq_some_iff.mpr hvalue
    simp only [List.mem_cons, List.not_mem_nil, or_false] at hmem
    obtain rfl | rfl | rfl | rfl | rfl := hmem
    · rw [Fcs.Node.ofJson?_sequence hother, Fcs.Node.ofJson?_sequence hvalue]
      exact bind_map_congr (h.field hword "children" (.items .fcsNode) rfl) _
    · have hexpression : (other.get? "expression").bind Fcs.Expression.ofJson? =
          (value.get? "expression").bind Fcs.Expression.ofJson? :=
        h.field hword "expression" (.part .expression) rfl
      have hmin : countOrOne? other "min_occurs" = countOrOne? value "min_occurs" :=
        h.field hword "min_occurs" .count rfl
      have hmax : countOrOne? other "max_occurs" = countOrOne? value "max_occurs" :=
        h.field hword "max_occurs" .count rfl
      rw [Fcs.Node.ofJson?_segment hother, Fcs.Node.ofJson?_segment hvalue,
        Fcs.Segment.ofJson?, hexpression, hmin, hmax, Fcs.Segment.ofJson?]
    · rw [Fcs.Node.ofJson?_disjunction hother, Fcs.Node.ofJson?_disjunction hvalue]
      exact bind_map_congr (h.field hword "children" (.items .fcsNode) rfl) _
    · have hmin : countOrOne? other "min_occurs" = countOrOne? value "min_occurs" :=
        h.field hword "min_occurs" .count rfl
      have hmax : countOrOne? other "max_occurs" = countOrOne? value "max_occurs" :=
        h.field hword "max_occurs" .count rfl
      rw [Fcs.Node.ofJson?_group hother, Fcs.Node.ofJson?_group hvalue, hmin, hmax]
      exact bind_bind_congr (h.field hword "query" (.part .fcsNode) rfl) _
    · have hscope := text?_congr (h.field hword "scope" .exact rfl)
      rw [Fcs.Node.ofJson?_withWithin hother, Fcs.Node.ofJson?_withWithin hvalue, hscope]
      exact bind_bind_congr (h.field hword "query" (.part .fcsNode) rfl) _
  · exact read_of_unknown (fun _ _ => Fcs.Node.type_of_ofJson?) htype hkind

/-- Both sides of a triple are looked up before either is read, which makes no difference. -/
theorem bind_sides {α β : Type} (left right : Option Json) (read : Json → Option α)
    (next : α → α → Option β) :
    (left.bind fun left => right.bind fun right => (read left).bind fun left =>
      (read right).bind fun right => next left right) =
    (left.bind read).bind fun left => (right.bind read).bind fun right => next left right := by
  simp only [Option.bind_assoc]
  refine congrArg (Option.bind _) (funext fun left => ?_)
  exact Option.bind_comm ..

theorem read_cqlNode (h : Kind.cqlNode.Alike value other) :
    Cql.Node.ofJson? other = Cql.Node.ofJson? value := by
  have htype : other.get? "type" = value.get? "type" := h "type" .exact rfl
  by_cases hkind : ∃ word ∈ ["triple", "search_clause"], value.get? "type" = some (.str word)
  · obtain ⟨word, hmem, hvalue⟩ := hkind
    have hother := htype.trans hvalue
    have hword : Kind.cqlNode.word? value = some word := text?_eq_some_iff.mpr hvalue
    simp only [List.mem_cons, List.not_mem_nil, or_false] at hmem
    obtain rfl | rfl := hmem
    · have hleft : (other.get? "left").bind Cql.Node.ofJson? =
          (value.get? "left").bind Cql.Node.ofJson? := h.field hword "left" (.part .cqlNode) rfl
      have hright : (other.get? "right").bind Cql.Node.ofJson? =
          (value.get? "right").bind Cql.Node.ofJson? := h.field hword "right" (.part .cqlNode) rfl
      rw [Cql.Node.ofJson?_triple hother, Cql.Node.ofJson?_triple hvalue]
      simp only [bind_sides, hleft, hright]
      exact bind_bind_congr (h.field hword "operator" (.part .operator) rfl) _
    · have hindex : optionalText? other "index" = optionalText? value "index" :=
        h.field hword "index" .optionalText rfl
      have hrelation : optionalText? other "relation" = optionalText? value "relation" :=
        h.field hword "relation" .optionalText rfl
      have hterm := text?_congr (h.field hword "term" .exact rfl)
      rw [Cql.Node.ofJson?_searchClause hother, Cql.Node.ofJson?_searchClause hvalue, hindex,
        hrelation, hterm]
  · refine read_of_unknown (fun json node hread => ?_) htype hkind
    rcases Cql.Node.type_of_ofJson? hread with hjson | hjson
    · exact ⟨_, .head _, hjson⟩
    · exact ⟨_, .tail _ (.head _), hjson⟩

theorem read_envelope (h : Kind.envelope.Alike value other) :
    Query.ofJson? other = Query.ofJson? value := by
  have htype := text?_congr (h "query_type" .exact rfl)
  rw [Query.ofJson?, htype, Query.ofJson?]
  cases hword : text? value "query_type" with
  | none => rfl
  | some word =>
      -- The word says in which language the tree is read, if in any.
      show ((QueryType.ofWord? word).bind fun type => (other.get? "tree").bind (ofTree? type)) =
        (QueryType.ofWord? word).bind fun type => (value.get? "tree").bind (ofTree? type)
      by_cases hcql : word = "cql"
      · subst hcql
        exact bind_map_congr (h.field hword "tree" (.part .cqlNode) rfl) _
      by_cases hfcs : word = "fcs"
      · subst hfcs
        exact bind_map_congr (h.field hword "tree" (.part .fcsNode) rfl) _
      · rw [QueryType.ofWord?, if_neg hcql, if_neg hfcs]
        rfl

end Kind.Alike

/-- Values whose fields are read alike are read alike. -/
theorem Kind.Alike.read {kind : Kind} {value other : Json} (h : kind.Alike value other) :
    kind.read other = kind.read value := by
  cases kind with
  | envelope => exact h.read_envelope
  | fcsNode => exact h.read_fcsNode
  | expression => exact h.read_expression
  | cqlNode => exact h.read_cqlNode
  | operator => exact h.read_operator
  | modifier => exact h.read_modifier

end CorpusQuery.Query
