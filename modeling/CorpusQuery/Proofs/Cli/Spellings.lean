/-
  CorpusQuery.Proofs.Cli.Spellings

  Equivalent spellings are answered alike. Edits of a tree or of an envelope
  that leave its meaning alone change neither what is read nor what a request
  with it is answered, by the library or by a run of the tool; and flags given
  to an expression in several calls count as the set of all of them.
-/
import CorpusQuery.Proofs.Cli.Resolution
import CorpusQuery.Proofs.Query.Edits

namespace CorpusQuery

open Relation (ReflTransGen)

namespace Query

/-! ## Trees and envelopes -/

/-- The kind of the trees of a language. -/
def Kind.ofType : QueryType → Kind
  | .cql => .cqlNode
  | .fcs => .fcsNode

variable {value other : Json} {query : Query}

/-- Edits of a tree leave what is read in its language. -/
theorem ofTree?_of_edits {type : QueryType}
    (h : ReflTransGen (Edit (Kind.ofType type)) value other) :
    ofTree? type other = ofTree? type value := by
  cases type with
  | cql => exact congrArg (Option.map _) (read_eq_of_edits h)
  | fcs => exact congrArg (Option.map _) (read_eq_of_edits h)

/-- A bare tree stays bare unless it is given both members of an envelope. -/
theorem ofInput_of_tree_edits (h : ReflTransGen (Edit (Kind.ofType query.type)) value other)
    (hread : ofTree? query.type value = some query) (hvalue : isEnveloped value = false)
    (hother : isEnveloped other = false) (given : Option String) (defaultType : QueryType) :
    ofInput given defaultType other = ofInput given defaultType value := by
  have hafter := (ofTree?_of_edits h).trans hread
  have htree : ∀ type, ofTree? type other = ofTree? type value := by
    intro type
    by_cases htype : type = query.type
    · rw [htype, hafter, hread]
    · rw [ofTree?_eq_none_of_ne hafter htype, ofTree?_eq_none_of_ne hread htype]
  simp only [ofInput, hvalue, hother, htree, Bool.false_eq_true, ↓reduceIte]

/-- What is read as an envelope has the members of one. -/
theorem isEnveloped_of_ofJson? (h : ofJson? value = some query) : isEnveloped value = true := by
  obtain ⟨type, htype, h⟩ := Option.bind_eq_some_iff.mp h
  obtain ⟨tree, htree, -⟩ := Option.bind_eq_some_iff.mp h
  obtain ⟨word, hword, -⟩ := Option.bind_eq_some_iff.mp htype
  rw [isEnveloped, Json.has, Json.has, Json.text?_eq_some_iff.mp hword, htree]
  rfl

theorem ofInput_of_envelope_edits (h : ReflTransGen (Edit .envelope) value other)
    (hread : ofJson? value = some query) (given : Option String) (defaultType : QueryType) :
    ofInput given defaultType other = ofInput given defaultType value := by
  have hafter : ofJson? other = some query := (read_eq_of_edits h).trans hread
  simp only [ofInput, isEnveloped_of_ofJson? hread, isEnveloped_of_ofJson? hafter, hread, hafter,
    ↓reduceIte]

end Query

/-! ## Flags given in several calls -/

namespace Fcs

theorem FlagSet.insertAll_append (flags : FlagSet) (first second : List RegexFlag) :
    (flags.insertAll first).insertAll second = flags.insertAll (first ++ second) :=
  List.foldl_append.symm

/-- Several calls give all their flags at once. -/
theorem SimpleExpression.foldl_withFlags (calls : List (List RegexFlag)) :
    ∀ expression : SimpleExpression,
      calls.foldl withFlags expression = expression.withFlags calls.flatten := by
  induction calls with
  | nil => exact fun _ => rfl
  | cons flags rest ih =>
      intro expression
      rw [List.foldl_cons, ih, withFlags, withFlags, FlagSet.insertAll_append, List.flatten_cons]
      rfl

/-- Which flags the calls give altogether is all that counts. -/
theorem SimpleExpression.withFlags_of_same {calls others : List (List RegexFlag)}
    (h : ∀ flag, flag ∈ others.flatten ↔ flag ∈ calls.flatten) (expression : SimpleExpression) :
    others.foldl withFlags expression = calls.foldl withFlags expression := by
  have hset : expression.flags.insertAll others.flatten =
      expression.flags.insertAll calls.flatten := by
    refine FlagSet.ext_contains fun flag => ?_
    rw [FlagSet.contains_insertAll, FlagSet.contains_insertAll, decide_eq_decide.mpr (h flag)]
  rw [foldl_withFlags, foldl_withFlags, withFlags, withFlags, hset]

end Fcs

namespace Cli

open Query (Edit Kind)

/-! ## Runs -/

/-- What a translation does depends on the query that its text holds, not on the text. -/
theorem translate_congr {world later : World} {config : Config} {given path other : Option String}
    {text spelled : String} (hread : readQuery world path = .ok text)
    (hlater : readQuery later other = .ok spelled)
    (h : queryOfText given config.defaultType spelled =
      queryOfText given config.defaultType text) :
    translate later config given other = translate world config given path := by
  rw [translate, translate, hread, hlater]
  simp only [Logged.ofExcept_ok, Logged.ok_bind, h]

/-- A run that translates the one value and a run that translates the other, with the same language
given, the same format and the same configuration, end alike, write the same and report the
same. -/
def RunsAlike (value other : Json) : Prop :=
  ∀ (world later : World) (invocation second : Invocation) (config : Config)
    (given : Option String),
    invocation.Translates world config given value → second.Translates later config given other →
    second.format = invocation.format →
    (runInvocation later second).code = (runInvocation world invocation).code ∧
      (runInvocation later second).output = (runInvocation world invocation).output ∧
      (runInvocation later second).errors = (runInvocation world invocation).errors ∧
      (runInvocation later second).events = (runInvocation world invocation).events

/-- Values that are read alike are translated alike by every run. -/
theorem runsAlike_of_ofInput {value other : Json}
    (h : ∀ given defaultType,
      Query.ofInput given defaultType other = Query.ofInput given defaultType value) :
    RunsAlike value other := by
  rintro world later invocation second config given
    ⟨hload, path, text, hcommand, hread, hparse⟩
    ⟨hlater, otherPath, spelled, hsecond, hspelled, hother⟩ hformat
  have hconfigure : second.configure config = invocation.configure config := by
    rw [Invocation.configure, Invocation.configure, hformat]
  have htranslate : translate later (invocation.configure config) given otherPath =
      translate world (invocation.configure config) given path :=
    translate_congr hread hspelled (by rw [queryOfText, queryOfText, hparse, hother]; simp only [h])
  have hperform : (second.perform later config).2 = (invocation.perform world config).2 := by
    rw [Invocation.perform, Invocation.perform, hcommand, hsecond, hconfigure]
    show (translate later (invocation.configure config) given otherPath).andThen _ = _
    rw [htranslate]
    rfl
  exact runInvocation_congr hload hlater hformat hperform

/-! ## Requests -/

/-- Equivalent spellings are read and answered alike. Edits at any depth leave what is read of a
value; a tree that stays bare, and an envelope, are then read as the same query, so that a request
is answered with the same corpus query or failure and the same warnings, and runs of the tool with
them do the same. An expression that is given flags in several calls depends on the set of all of
them only. -/
theorem spellings_alike :
    (∀ kind value other, ReflTransGen (Edit kind) value other →
      kind.read other = kind.read value) ∧
    (∀ (query : Query) (value other : Json),
      ReflTransGen (Edit (Kind.ofType query.type)) value other →
      Query.ofTree? query.type value = some query →
      Query.ofTree? query.type other = some query ∧
      (Query.isEnveloped value = false → Query.isEnveloped other = false →
        (∀ given defaultType,
          translateInput given defaultType other = translateInput given defaultType value) ∧
        RunsAlike value other)) ∧
    (∀ (query : Query) (value other : Json), ReflTransGen (Edit .envelope) value other →
      Query.ofJson? value = some query →
      Query.ofJson? other = some query ∧
      (∀ given defaultType,
        translateInput given defaultType other = translateInput given defaultType value) ∧
      RunsAlike value other) ∧
    (∀ (expression : Fcs.SimpleExpression) (calls others : List (List Fcs.RegexFlag)),
      (∀ flag, flag ∈ others.flatten ↔ flag ∈ calls.flatten) →
      others.foldl Fcs.SimpleExpression.withFlags expression =
        calls.foldl Fcs.SimpleExpression.withFlags expression) := by
  refine ⟨fun _ _ _ => Query.read_eq_of_edits, ?_, ?_, ?_⟩
  · intro query value other hedits hread
    refine ⟨(Query.ofTree?_of_edits hedits).trans hread, fun hvalue hother => ?_⟩
    have hinput := Query.ofInput_of_tree_edits hedits hread hvalue hother
    refine ⟨fun given defaultType => ?_, runsAlike_of_ofInput hinput⟩
    rw [translateInput, translateInput, hinput given defaultType]
  · intro query value other hedits hread
    have hinput := Query.ofInput_of_envelope_edits hedits hread
    refine ⟨(Query.read_eq_of_edits hedits).trans hread, fun given defaultType => ?_,
      runsAlike_of_ofInput hinput⟩
    rw [translateInput, translateInput, hinput given defaultType]
  · exact fun expression _ _ hsame => Fcs.SimpleExpression.withFlags_of_same hsame expression

/-- Two flags, each named once. -/
def flagsOnce : List Json :=
  [.str "literal_matching", .str "ignore_diacritics"]

/-- The same flags in another order, with one named twice. -/
def flagsAgain : List Json :=
  [.str "ignore_diacritics", .str "literal_matching", .str "ignore_diacritics"]

/-- An expression on a word, with further members and a list of flags. -/
def expressionSpelling (further : List (String × Json)) (flags : List Json) : Json :=
  .obj (("type", .str "simple") :: further ++ [("identifier", .str "word"),
    ("operator", .str "equals"), ("regex", .str "katt"), ("regex_flags", .arr flags)])

/-- A segment in few words. -/
def plainSpelling : Json :=
  .obj [("type", .str "segment"), ("expression", expressionSpelling [] flagsOnce)]

/-- The same segment with a bound and a qualifier that could be left out, a flag named twice, a
member that means nothing here, and the members in another order. -/
def fullSpelling : Json :=
  .obj [("min_occurs", .number (.int 1)),
    ("expression", expressionSpelling [("qualifier", .null)] flagsAgain),
    ("query_type", .str "cql"), ("type", .str "segment")]

theorem edits_plainSpelling : ReflTransGen (Edit .fcsNode) plainSpelling fullSpelling := by
  -- in the expression
  have hqualifier : Edit .expression (expressionSpelling [] flagsOnce)
      (expressionSpelling [("qualifier", .null)] flagsOnce) :=
    @Edit.writeOut .expression [("type", .str "simple")] _ "qualifier" .optionalText .null rfl rfl
      rfl
  have hflags : Edit .expression (expressionSpelling [("qualifier", .null)] flagsOnce)
      (expressionSpelling [("qualifier", .null)] flagsAgain) := by
    refine @Edit.flags .expression [("type", .str "simple"), ("qualifier", .null),
      ("identifier", .str "word"), ("operator", .str "equals"), ("regex", .str "katt")] []
      "regex_flags" _ _ rfl fun item => ?_
    simp only [flagsOnce, flagsAgain, List.mem_cons, List.not_mem_nil, or_false]
    tauto
  -- in the segment
  have hpart : ∀ {value other : Json}, Edit .expression value other → Edit .fcsNode
      (.obj [("type", .str "segment"), ("expression", value)])
      (.obj [("type", .str "segment"), ("expression", other)]) := fun hedit =>
    @Edit.part .fcsNode .expression [("type", .str "segment")] [] "expression" _ _ rfl hedit
  have hbound := @Edit.writeOut .fcsNode [("type", .str "segment")]
    [("expression", expressionSpelling [("qualifier", .null)] flagsAgain)] "min_occurs" .count
    (.number (.int 1)) rfl rfl rfl
  have hadd := @Edit.add .fcsNode [("type", .str "segment"), ("min_occurs", .number (.int 1)),
    ("expression", expressionSpelling [("qualifier", .null)] flagsAgain)] [] "query_type"
    (.str "cql") rfl
  have hperm := @List.perm_append_comm _ [("type", Json.str "segment")]
    [("min_occurs", .number (.int 1)),
      ("expression", expressionSpelling [("qualifier", .null)] flagsAgain),
      ("query_type", .str "cql")]
  have hreorder : Edit .fcsNode _ _ := .reorder hperm (Json.lookup_perm hperm (by decide))
  exact ((((ReflTransGen.single (hpart hqualifier)).tail (hpart hflags)).tail hbound).tail
    hadd).tail hreorder

/-- The segment that both spell. -/
def spelledSegment : Fcs.Node :=
  .segment (.once (.simple
    ((Fcs.SimpleExpression.of "word" .equals "katt").withFlags
      [.literalMatching, .ignoreDiacritics])))

/-- Both are read as the same segment and answered alike, whatever language goes with them. -/
theorem spellings_alike_segment :
    Query.ofTree? .fcs plainSpelling = some (.fcs spelledSegment) ∧
      Query.ofTree? .fcs fullSpelling = some (.fcs spelledSegment) ∧
      (∀ given defaultType,
        translateInput given defaultType fullSpelling =
          translateInput given defaultType plainSpelling) ∧
      RunsAlike plainSpelling fullSpelling := by
  have hspelled : Fcs.Node.Spells plainSpelling spelledSegment := by
    have hflags : Fcs.FlagSet.Spells flagsOnce
        (Fcs.FlagSet.ofList [.literalMatching, .ignoreDiacritics]) :=
      ⟨[.literalMatching, .ignoreDiacritics], rfl, Fcs.FlagSet.contains_ofList _⟩
    exact .segment rfl ⟨⟨_, rfl, .simple rfl ⟨rfl, .absent rfl, rfl, rfl, _, .items rfl, hflags⟩⟩,
      .absent rfl, .absent rfl⟩
  have hread : Query.ofTree? .fcs plainSpelling = some (.fcs spelledSegment) :=
    congrArg (Option.map Query.fcs) (Fcs.Node.ofJson?_eq_some_iff.mpr hspelled)
  obtain ⟨-, htree, -, -⟩ := spellings_alike
  obtain ⟨hother, hanswer⟩ := htree (.fcs spelledSegment) _ _ edits_plainSpelling hread
  exact ⟨hread, hother, hanswer rfl rfl⟩

end Cli

end CorpusQuery
