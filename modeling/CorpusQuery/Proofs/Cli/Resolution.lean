/-
  CorpusQuery.Proofs.Cli.Resolution

  Which language a request is in. A tree comes bare or in an envelope, with or
  without a text that names its language, beside a default. Where the language
  in force is that of the tree, the request is answered as the translation of
  the tree; where it is not, the request fails before a translator takes the
  tree up. No value is a tree of both languages.
-/
import CorpusQuery.Proofs.Cli.Answers
import CorpusQuery.Proofs.Cql.Grammar
import CorpusQuery.Proofs.Fcs.Grammar
import CorpusQuery.Proofs.QueryType

namespace CorpusQuery

/-! ## Taking up a query -/

/-- One of the translators took a query up. -/
def Logged.TakesUp {ε α : Type} (computation : Logged ε α) : Prop :=
  (∃ tree, .cqlBegun tree ∈ computation.events) ∨ ∃ tree, .fcsBegun tree ∈ computation.events

namespace Query

/-- Every translation of a tree takes the tree up. -/
theorem takesUp_treeToCqp (query : Query) : query.treeToCqp.TakesUp := by
  cases query with
  | cql tree =>
      have hevents : ∃ later, tree.toCqp.events = .cqlBegun tree :: later := ⟨_, rfl⟩
      obtain ⟨later, hevents⟩ := hevents
      exact Or.inl ⟨tree, by rw [treeToCqp, hevents]; exact List.mem_cons_self⟩
  | fcs tree =>
      have hevents : ∃ later, tree.toCqp.events = .fcsBegun tree :: later := ⟨_, rfl⟩
      obtain ⟨later, hevents⟩ := hevents
      exact Or.inr ⟨tree, by rw [treeToCqp, hevents]; exact List.mem_cons_self⟩

/-! ## One value, one language -/

/-- The languages share no word for a kind of query. -/
theorem not_read_as_both {json : Json} {cql : Cql.Node} {fcs : Fcs.Node}
    (hcql : Cql.Node.ofJson? json = some cql) : Fcs.Node.ofJson? json ≠ some fcs := by
  intro hfcs
  obtain ⟨word, hword, hfcsType⟩ := Fcs.Node.type_of_ofJson? hfcs
  rcases Cql.Node.type_of_ofJson? hcql with htype | htype
  · cases hfcsType.symm.trans htype
    simp at hword
  · cases hfcsType.symm.trans htype
    simp at hword

/-- A tree of one language is no tree of the other. -/
theorem ofTree?_eq_none_of_ne {json : Json} {type other : QueryType} {query : Query}
    (h : ofTree? type json = some query) (hne : other ≠ type) : ofTree? other json = none := by
  cases type with
  | cql =>
      cases other with
      | cql => exact absurd rfl hne
      | fcs =>
          obtain ⟨tree, htree, -⟩ := Option.map_eq_some_iff.mp h
          have hnone : Fcs.Node.ofJson? json = none :=
            Option.eq_none_iff_forall_ne_some.mpr fun _ => not_read_as_both htree
          rw [ofTree?, hnone]
          rfl
  | fcs =>
      cases other with
      | fcs => exact absurd rfl hne
      | cql =>
          obtain ⟨tree, htree, -⟩ := Option.map_eq_some_iff.mp h
          have hnone : Cql.Node.ofJson? json = none :=
            Option.eq_none_iff_forall_ne_some.mpr fun _ hcql => not_read_as_both hcql htree
          rw [ofTree?, hnone]
          rfl

/-! ## The declared language -/

/-- A query under the other language is refused with one warning. -/
theorem toCqp_of_mismatch {query : Query} {declared : String} {other : QueryType}
    (h : QueryType.ofText declared = .ok other) (hne : other ≠ query.type) :
    query.toCqp declared =
      ⟨[.typeMismatch other query.type], .error (.unsupportedQueryType declared)⟩ := by
  rw [toCqp, h, Logged.ofExcept_ok, Logged.ok_bind, if_neg hne]
  rfl

/-- A query under no language is refused without a warning. -/
theorem toCqp_of_unknown {query : Query} {declared : String}
    (h : QueryType.ofText? declared = none) :
    query.toCqp declared = .fail (.unsupportedQueryType declared) := by
  rw [toCqp, QueryType.ofText_of_none h, Logged.ofExcept_error, Logged.fail_bind]

end Query

namespace Cli

/-! ## Requests -/

/-- How a tree is handed in: by itself, or in the envelope of its language. -/
inductive Packing where
  | bare
  | enveloped
  deriving DecidableEq, Repr

/-- A query as it is handed in, with the text that is given for its language, if any, and the
language that stands in for one. -/
structure Request where
  query : Query
  packing : Packing
  given : Option String
  defaultType : QueryType

/-- The JSON value that is handed in. -/
def Request.json (request : Request) : Json :=
  match request.packing with
  | .bare => request.query.treeToJson
  | .enveloped => request.query.toJson

/-- The language in force: that of the text that is given; else an envelope names its own, and a
bare tree has the default. -/
def Request.type (request : Request) : Except Refusal QueryType :=
  match request.given, request.packing with
  | some text, _ => QueryType.ofText text
  | none, .enveloped => .ok request.query.type
  | none, .bare => .ok request.defaultType

/-- What becomes of the request. -/
def Request.answer (request : Request) : Logged Failure String :=
  translateInput request.given request.defaultType request.json

/-! ## How requests are answered -/

/-- An envelope is read whatever is given with it, and the default plays no part. -/
theorem translateInput_toJson (query : Query) (given : Option String) (defaultType : QueryType) :
    translateInput given defaultType query.toJson =
      (query.toCqp (given.getD query.type.word)).mapError Failure.refused :=
  translateInput_of_ok (query.ofInput_toJson given defaultType)

/-- A bare tree under its language is read, and its language is declared. -/
theorem translateInput_treeToJson {query : Query} {given : Option String} {defaultType : QueryType}
    (h : QueryType.ofText (given.getD defaultType.word) = .ok query.type) :
    translateInput given defaultType query.treeToJson =
      query.treeToCqp.mapError Failure.refused := by
  rw [translateInput_of_ok (Query.ofInput_treeToJson h), Query.toCqp_of_declared h]

/-- Under the other language it is no tree. -/
theorem translateInput_treeToJson_of_ne {query : Query} {given : Option String}
    {defaultType other : QueryType} (h : QueryType.ofText (given.getD defaultType.word) = .ok other)
    (hne : other ≠ query.type) :
    translateInput given defaultType query.treeToJson = .fail (.input (.invalidTree other)) := by
  have hread : Query.ofInput given defaultType query.treeToJson = .error (.invalidTree other) := by
    rw [Query.ofInput, query.isEnveloped_treeToJson]
    simp only [Bool.false_eq_true, if_false, h]
    rw [Query.ofTree?_eq_none_of_ne query.ofTree?_treeToJson hne]
  exact translateInput_of_error hread

/-- Under no language it is not read. -/
theorem translateInput_treeToJson_of_none {query : Query} {text : String} {defaultType : QueryType}
    (h : QueryType.ofText? text = none) :
    translateInput (some text) defaultType query.treeToJson =
      .fail (.input (.unknownType (.unsupportedQueryType text))) := by
  have hread : Query.ofInput (some text) defaultType query.treeToJson =
      .error (.unknownType (.unsupportedQueryType text)) := by
    rw [Query.ofInput, query.isEnveloped_treeToJson]
    simp only [Bool.false_eq_true, if_false, Option.getD_some, QueryType.ofText_of_none h]
  exact translateInput_of_error hread

namespace Request

variable {request : Request}

/-- The text that stands for the language in force: the one given, or the word for the language
that an envelope names or that is the default. -/
def declared (request : Request) : String :=
  match request.packing with
  | .enveloped => request.given.getD request.query.type.word
  | .bare => request.given.getD request.defaultType.word

theorem ofText_declared (request : Request) :
    QueryType.ofText request.declared = request.type := by
  obtain ⟨query, packing, given, defaultType⟩ := request
  cases packing with
  | bare =>
      cases given with
      | none => exact QueryType.ofText_word defaultType
      | some text => rfl
  | enveloped =>
      cases given with
      | none => exact QueryType.ofText_word query.type
      | some text => rfl

/-- In its own language a tree is translated. -/
theorem answer_of_type (h : request.type = .ok request.query.type) :
    request.answer = request.query.treeToCqp.mapError Failure.refused := by
  obtain ⟨query, packing, given, defaultType⟩ := request
  have hdeclared := (ofText_declared ⟨query, packing, given, defaultType⟩).trans h
  cases packing with
  | bare => exact translateInput_treeToJson hdeclared
  | enveloped =>
      show translateInput given defaultType query.toJson = _
      rw [translateInput_toJson]
      exact congrArg (Logged.mapError Failure.refused) (Query.toCqp_of_declared hdeclared)

/-- A text that names no language is refused, as it is written. -/
theorem answer_of_unknown {text : String} (hgiven : request.given = some text)
    (h : QueryType.ofText? text = none) :
    ∃ failure, failure.refusal? = some (.unsupportedQueryType text) ∧
      request.answer = .fail failure := by
  obtain ⟨query, packing, given, defaultType⟩ := request
  cases hgiven
  cases packing with
  | bare =>
      exact ⟨.input (.unknownType (.unsupportedQueryType text)), rfl,
        translateInput_treeToJson_of_none h⟩
  | enveloped =>
      refine ⟨.refused (.unsupportedQueryType text), rfl, ?_⟩
      show translateInput (some text) defaultType query.toJson = _
      rw [translateInput_toJson, Option.getD_some, Query.toCqp_of_unknown h]
      rfl

/-- An envelope of another language than the one given is refused, with a warning. -/
theorem answer_of_mismatch {text : String} {other : QueryType}
    (hpacking : request.packing = .enveloped) (hgiven : request.given = some text)
    (h : QueryType.ofText? text = some other) (hne : other ≠ request.query.type) :
    request.answer = ⟨[.typeMismatch other request.query.type],
      .error (.refused (.unsupportedQueryType text))⟩ := by
  obtain ⟨query, packing, given, defaultType⟩ := request
  cases hgiven
  cases hpacking
  have hother := QueryType.ofText_eq_ok_iff_ofText?.mpr h
  show translateInput (some text) defaultType query.toJson = _
  rw [translateInput_toJson, Option.getD_some, Query.toCqp_of_mismatch hother hne]
  rfl

/-- A bare tree is no tree of another language. -/
theorem answer_of_ne {other : QueryType} (hpacking : request.packing = .bare)
    (h : request.type = .ok other) (hne : other ≠ request.query.type) :
    request.answer = .fail (.input (.invalidTree other)) := by
  obtain ⟨query, packing, given, defaultType⟩ := request
  cases hpacking
  have hdeclared : QueryType.ofText (given.getD defaultType.word) = .ok other :=
    (ofText_declared ⟨query, .bare, given, defaultType⟩).trans h
  exact translateInput_treeToJson_of_ne hdeclared hne

/-- A language in force that is not there is a text given for it that names none. -/
theorem exists_given_of_error {refusal : Refusal} (h : request.type = .error refusal) :
    ∃ text, request.given = some text ∧ QueryType.ofText? text = none := by
  obtain ⟨query, packing, given, defaultType⟩ := request
  cases given with
  | none => cases packing <;> cases h
  | some text =>
      have herror : QueryType.ofText text = .error refusal := h
      refine ⟨text, rfl, ?_⟩
      cases hread : QueryType.ofText? text with
      | none => rfl
      | some type =>
          rw [QueryType.ofText_eq_ok_iff_ofText?.mpr hread] at herror
          cases herror

/-- An envelope is in another language only by a text that names it. -/
theorem exists_given_of_ne {other : QueryType} (hpacking : request.packing = .enveloped)
    (h : request.type = .ok other) (hne : other ≠ request.query.type) :
    ∃ text, request.given = some text ∧ QueryType.ofText? text = some other := by
  obtain ⟨query, packing, given, defaultType⟩ := request
  cases hpacking
  cases given with
  | none => exact absurd (Except.ok.inj h).symm hne
  | some text => exact ⟨text, rfl, QueryType.ofText_eq_ok_iff_ofText?.mp h⟩

theorem not_takesUp_fail (failure : Failure) :
    ¬ (Logged.fail failure : Logged Failure String).TakesUp := by
  rintro (⟨_, h⟩ | ⟨_, h⟩) <;> cases h

/-- Out of its language a tree is never taken up. -/
theorem not_takesUp_of_type_ne (h : request.type ≠ .ok request.query.type) :
    (∃ failure, request.answer.outcome = .error failure) ∧ ¬ request.answer.TakesUp := by
  -- What is in force is no language, or another one; then the packing decides.
  cases htype : request.type with
  | error refusal =>
      obtain ⟨text, hgiven, hnone⟩ := exists_given_of_error htype
      obtain ⟨failure, -, hanswer⟩ := answer_of_unknown hgiven hnone
      rw [hanswer]
      exact ⟨⟨failure, rfl⟩, not_takesUp_fail failure⟩
  | ok other =>
      have hne : other ≠ request.query.type := fun heq => h (by rw [htype, heq])
      cases hpacking : request.packing with
      | bare =>
          rw [answer_of_ne hpacking htype hne]
          exact ⟨⟨_, rfl⟩, not_takesUp_fail _⟩
      | enveloped =>
          obtain ⟨text, hgiven, hother⟩ := exists_given_of_ne hpacking htype hne
          rw [answer_of_mismatch hpacking hgiven hother hne]
          refine ⟨⟨_, rfl⟩, ?_⟩
          -- The only event is the warning.
          rintro (⟨_, hmem⟩ | ⟨_, hmem⟩)
          · cases List.mem_singleton.mp hmem
          · cases List.mem_singleton.mp hmem

/-- The default plays no part in how an envelope is answered. -/
theorem answer_of_enveloped (query : Query) (given : Option String)
    (defaultType other : QueryType) :
    answer ⟨query, .enveloped, given, defaultType⟩ = answer ⟨query, .enveloped, given, other⟩ := by
  show translateInput given defaultType query.toJson = translateInput given other query.toJson
  rw [translateInput_toJson, translateInput_toJson]

/-- A request in the language of its tree is answered as the tree is translated, which takes it up.
Any other fails without a translator taking the tree up: for a text that names no language, for an
envelope of another language than the one given, with its one warning, or for a bare tree that is
none of the language in force. A run of the tool that is handed the request gives this answer. -/
theorem resolution (request : Request) :
    (request.type = .ok request.query.type →
      request.answer = request.query.treeToCqp.mapError Failure.refused) ∧
    request.query.treeToCqp.TakesUp ∧
    (request.type ≠ .ok request.query.type →
      (∃ failure, request.answer.outcome = .error failure) ∧ ¬ request.answer.TakesUp) ∧
    (∀ text, request.given = some text → QueryType.ofText? text = none →
      ∃ failure, failure.refusal? = some (.unsupportedQueryType text) ∧
        request.answer = .fail failure) ∧
    (∀ text other, request.packing = .enveloped → request.given = some text →
      QueryType.ofText? text = some other → other ≠ request.query.type →
      request.answer = ⟨[.typeMismatch other request.query.type],
        .error (.refused (.unsupportedQueryType text))⟩) ∧
    (∀ other, request.packing = .bare → request.type = .ok other → other ≠ request.query.type →
      request.answer = .fail (.input (.invalidTree other))) ∧
    (request.packing = .enveloped →
      ∀ other, request.answer = answer { request with defaultType := other }) ∧
    Query.isEnveloped request.query.treeToJson = false ∧
    (∀ world invocation config, invocation.Translates world config request.given request.json →
      config.defaultType = request.defaultType →
      (runInvocation world invocation).Gives (invocation.configure config).format
        request.answer) := by
  refine ⟨answer_of_type, request.query.takesUp_treeToCqp, not_takesUp_of_type_ne,
    fun _ => answer_of_unknown, fun _ _ => answer_of_mismatch, fun _ => answer_of_ne, ?_,
    request.query.isEnveloped_treeToJson, ?_⟩
  · intro hpacking other
    obtain ⟨query, packing, given, defaultType⟩ := request
    cases hpacking
    exact answer_of_enveloped query given defaultType other
  · intro world invocation config htranslates hdefault
    rw [answer, ← hdefault]
    exact runInvocation_gives htranslates

/-- The four ways to miss the language of a query on a word, and one to find it, also with the
tool. -/
theorem resolution_wordQuery :
    answer ⟨wordQuery, .bare, some " FCS", .cql⟩ = wordQuery.treeToCqp.mapError Failure.refused ∧
    (∃ failure, failure.refusal? = some (.unsupportedQueryType "lucene") ∧
      answer ⟨wordQuery, .bare, some "lucene", .fcs⟩ = .fail failure) ∧
    answer ⟨wordQuery, .enveloped, some "Cql", .fcs⟩ =
      ⟨[.typeMismatch .cql .fcs], .error (.refused (.unsupportedQueryType "Cql"))⟩ ∧
    answer ⟨wordQuery, .bare, none, .cql⟩ = .fail (.input (.invalidTree .cql)) ∧
    ¬ (answer ⟨wordQuery, .bare, none, .cql⟩).TakesUp ∧
    answer ⟨wordQuery, .enveloped, none, .cql⟩ = answer ⟨wordQuery, .enveloped, none, .fcs⟩ ∧
    (runInvocation wordWorld
      ⟨none, false, none, none, .translate (some " FCS") (some "query.json")⟩).Gives .text
        (answer ⟨wordQuery, .bare, some " FCS", .fcs⟩) := by
  have hword : QueryType.ofText " FCS" = .ok .fcs := by decide +kernel
  have hunknown : QueryType.ofText? "lucene" = none := by decide +kernel
  have hother : QueryType.ofText? "Cql" = some .cql := by decide +kernel
  have hne : (Request.type ⟨wordQuery, .bare, none, .cql⟩) ≠ .ok wordQuery.type :=
    fun h => nomatch h
  obtain ⟨htranslated, -⟩ := resolution ⟨wordQuery, .bare, some " FCS", .cql⟩
  obtain ⟨-, -, -, hrefused, -⟩ := resolution ⟨wordQuery, .bare, some "lucene", .fcs⟩
  obtain ⟨-, -, -, -, hmismatch, -⟩ := resolution ⟨wordQuery, .enveloped, some "Cql", .fcs⟩
  obtain ⟨-, -, huntaken, -, -, hinvalid, -⟩ := resolution ⟨wordQuery, .bare, none, .cql⟩
  obtain ⟨-, -, -, -, -, -, hdefault, -⟩ := resolution ⟨wordQuery, .enveloped, none, .cql⟩
  obtain ⟨-, -, -, -, -, -, -, -, hgives⟩ := resolution ⟨wordQuery, .bare, some " FCS", .fcs⟩
  have htranslates : Invocation.Translates wordWorld .default (some " FCS")
      wordQuery.treeToJson
      ⟨none, false, none, none, .translate (some " FCS") (some "query.json")⟩ :=
    ⟨Config.load_of_isPlain _ ⟨rfl, rfl, rfl, rfl⟩, some "query.json",
      wordQuery.treeToJson.compact, rfl, by decide +kernel,
      Json.parse_compact (by decide) wordQuery.numbersReadBack_treeToJson⟩
  exact ⟨htranslated hword, hrefused "lucene" rfl hunknown,
    hmismatch "Cql" .cql rfl rfl hother nofun, hinvalid .cql rfl rfl nofun, (huntaken hne).2,
    hdefault rfl .fcs, hgives wordWorld _ .default htranslates rfl⟩

end Request

end Cli

end CorpusQuery
