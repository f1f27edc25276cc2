/-
  CorpusQuery.Proofs.Query.NamedTypes

  Texts that have to name a query language: read by themselves, given with a
  bare tree, or set in the environment. All three take the texts that name a
  language, for that language, and no others, and a refusal carries the text as
  it is. What else may go wrong is kept apart from that.
-/
import CorpusQuery.Proofs.Config.Loading
import CorpusQuery.Query.Input

namespace CorpusQuery

/-! ## A type given with a bare tree -/

namespace Query

variable {text : String} {type defaultType : QueryType} {value : Json} {query : Query}

theorem type_of_ofTree? (h : ofTree? type value = some query) : query.type = type := by
  cases type <;> obtain ⟨tree, -, rfl⟩ := Option.map_eq_some_iff.mp h <;> rfl

theorem ofInput_of_named (hbare : isEnveloped value = false) (hnamed : type.IsNamedBy text)
    (htree : ofTree? type value = some query) :
    ofInput (some text) defaultType value = .ok (text, query) := by
  rw [ofInput, hbare]
  simp only [Bool.false_eq_true, if_false, Option.getD_some, QueryType.ofText_eq_ok_iff.mpr hnamed,
    htree]

theorem ofInput_of_named_of_none (hbare : isEnveloped value = false)
    (hnamed : type.IsNamedBy text) (htree : ofTree? type value = none) :
    ofInput (some text) defaultType value = .error (.invalidTree type) := by
  rw [ofInput, hbare]
  simp only [Bool.false_eq_true, if_false, Option.getD_some, QueryType.ofText_eq_ok_iff.mpr hnamed,
    htree]

theorem ofInput_of_unnamed (hbare : isEnveloped value = false)
    (hnone : ∀ type : QueryType, ¬ type.IsNamedBy text) :
    ofInput (some text) defaultType value =
      .error (.unknownType (.unsupportedQueryType text)) := by
  rw [ofInput, hbare]
  simp only [Bool.false_eq_true, if_false, Option.getD_some,
    QueryType.ofText_eq_error_iff.mpr ⟨hnone, rfl⟩]

/-- The text names a language that the tree is of, or that it is not of, or the text names none. -/
theorem named_cases (text : String) (value : Json) :
    (∃ (type : QueryType) (query : Query), type.IsNamedBy text ∧
      ofTree? type value = some query) ∨
    (∃ type : QueryType, type.IsNamedBy text ∧ ofTree? type value = none) ∨
    ∀ type : QueryType, ¬ type.IsNamedBy text := by
  by_cases hnamed : ∃ type : QueryType, type.IsNamedBy text
  · obtain ⟨type, hnamed⟩ := hnamed
    cases htree : ofTree? type value with
    | some query => exact .inl ⟨type, query, hnamed, htree⟩
    | none => exact .inr (.inl ⟨type, hnamed, htree⟩)
  · exact .inr (.inr (not_exists.mp hnamed))

section Bare

variable (hbare : isEnveloped value = false)
include hbare

theorem ofInput_eq_ok_iff {declared : String} :
    ofInput (some text) defaultType value = .ok (declared, query) ↔
      declared = text ∧ query.type.IsNamedBy text ∧ ofTree? query.type value = some query := by
  constructor
  · intro h
    rcases named_cases text value with ⟨type, found, hnamed, htree⟩ | ⟨type, hnamed, htree⟩ | hnone
    · cases h.symm.trans (ofInput_of_named hbare hnamed htree)
      rw [type_of_ofTree? htree]
      exact ⟨rfl, hnamed, htree⟩
    · cases h.symm.trans (ofInput_of_named_of_none hbare hnamed htree)
    · cases h.symm.trans (ofInput_of_unnamed hbare hnone)
  · rintro ⟨rfl, hnamed, htree⟩
    exact ofInput_of_named hbare hnamed htree

theorem ofInput_eq_invalidTree_iff :
    ofInput (some text) defaultType value = .error (.invalidTree type) ↔
      type.IsNamedBy text ∧ ofTree? type value = none := by
  constructor
  · intro h
    rcases named_cases text value with ⟨found, _, hnamed, htree⟩ | ⟨found, hnamed, htree⟩ | hnone
    · cases h.symm.trans (ofInput_of_named hbare hnamed htree)
    · cases h.symm.trans (ofInput_of_named_of_none hbare hnamed htree)
      exact ⟨hnamed, htree⟩
    · cases h.symm.trans (ofInput_of_unnamed hbare hnone)
  · rintro ⟨hnamed, htree⟩
    exact ofInput_of_named_of_none hbare hnamed htree

theorem ofInput_eq_unknownType_iff {refusal : Refusal} :
    ofInput (some text) defaultType value = .error (.unknownType refusal) ↔
      (∀ type : QueryType, ¬ type.IsNamedBy text) ∧ refusal = .unsupportedQueryType text := by
  constructor
  · intro h
    rcases named_cases text value with ⟨type, _, hnamed, htree⟩ | ⟨type, hnamed, htree⟩ | hnone
    · cases h.symm.trans (ofInput_of_named hbare hnamed htree)
    · cases h.symm.trans (ofInput_of_named_of_none hbare hnamed htree)
    · cases h.symm.trans (ofInput_of_unnamed hbare hnone)
      exact ⟨hnone, rfl⟩
  · rintro ⟨hnone, rfl⟩
    exact ofInput_of_unnamed hbare hnone

end Bare

end Query

/-! ## A type set in the environment -/

namespace Config

variable {files : FileSystem} {environment : Environment} {given : Option String} {text : String}

/-- The configuration has the type that the variable names, if there is one without the variable. -/
theorem exists_load_with_type_iff (hvalue : environment.queryType = some text) {type : QueryType} :
    (∃ config, load files environment given = .ok config ∧ config.defaultType = type) ↔
      type.IsNamedBy text ∧
        ∃ config, load files { environment with queryType := none } given = .ok config := by
  constructor
  · rintro ⟨config, h, rfl⟩
    obtain ⟨file, level, found, format, hfile, hlevel, htype, hformat, rfl⟩ :=
      exists_parts_of_load h
    -- The variable gives a type, which lies over whatever the file gives.
    have hgives := ((environmentType_reads environment).ok_iff found).mp htype
    rw [hvalue] at hgives
    cases hgives with
    | set hnamed =>
        exact ⟨hnamed, ⟨_, load_of_parts hfile hlevel rfl hformat⟩⟩
  · rintro ⟨hnamed, ⟨config, h⟩⟩
    obtain ⟨file, level, _, format, hfile, hlevel, -, hformat, -⟩ := exists_parts_of_load h
    have htype : environmentType environment = .ok (some type) := by
      rw [(environmentType_reads environment).ok_iff, hvalue]
      exact .set hnamed
    exact ⟨_, load_of_parts hfile hlevel htype hformat, rfl⟩

/-- The variable is blamed if it names nothing, unless something before it is at fault. -/
theorem load_eq_invalidType_iff (hvalue : environment.queryType = some text) {value : String}
    {refusal : Refusal} :
    load files environment given = .error (.invalidType value refusal) ↔
      value = text ∧ (∀ type : QueryType, ¬ type.IsNamedBy text) ∧
        refusal = .unsupportedQueryType text ∧
        ∃ config, load files { environment with queryType := none, outputFormat := none } given =
          .ok config := by
  constructor
  · intro h
    -- The file and the log level come before the query type and the format after it, and a fault of
    -- theirs is another error.
    rcases Outcome.bind_error_iff.mp h with h | ⟨file, hfile, h⟩
    · cases fileLayer_eq_error_iff.mp h
    rcases Outcome.bind_error_iff.mp h with h | ⟨_, -, h⟩
    swap
    · cases h
    rcases Outcome.bind_error_iff.mp h with h | ⟨level, hlevel, h⟩
    · obtain ⟨_, -, h⟩ := (((environmentLevel_reads environment).error_iff _).mp h).exists_text
      cases h
    rcases Outcome.bind_error_iff.mp h with h | ⟨type, -, h⟩
    · have hfault := ((environmentType_reads environment).error_iff _).mp h
      rw [hvalue] at hfault
      cases hfault with
      | namesNothing hnone =>
          exact ⟨rfl, hnone, rfl, _, load_of_parts hfile hlevel rfl rfl⟩
    rcases Outcome.bind_error_iff.mp h with h | ⟨_, -, h⟩
    · obtain ⟨_, -, h⟩ := (((environmentFormat_reads environment).error_iff _).mp h).exists_text
      cases h
    · cases h
  · rintro ⟨rfl, hnone, rfl, ⟨config, h⟩⟩
    obtain ⟨file, level, _, _, hfile, hlevel, -⟩ := exists_parts_of_load h
    have htype : environmentType environment =
        .error (.invalidType value (.unsupportedQueryType value)) := by
      rw [(environmentType_reads environment).error_iff, hvalue]
      exact .namesNothing hnone
    have hlayer : environmentLayer environment =
        .error (.invalidType value (.unsupportedQueryType value)) :=
      Outcome.bind_error_iff.mpr (.inr ⟨level, hlevel, Outcome.bind_error_iff.mpr (.inl htype)⟩)
    exact Outcome.bind_error_iff.mpr (.inr ⟨file, hfile, Outcome.bind_error_iff.mpr (.inl hlayer)⟩)

end Config

/-! ## All texts -/

namespace QueryType

/-- A text is read as a query type exactly if it names it, and otherwise refused as it is, by
itself, with a bare tree and in the environment alike. With a bare tree it then remains to read the
tree; in the environment the other settings have to be right, of which only the format is looked at
later. -/
theorem accepted_iff_named (text : String) :
    (∀ type, ofText text = .ok type ↔ type.IsNamedBy text) ∧
    (∀ refusal, ofText text = .error refusal ↔
      (∀ type : QueryType, ¬ type.IsNamedBy text) ∧ refusal = .unsupportedQueryType text) ∧
    (∀ (defaultType : QueryType) (value : Json), Query.isEnveloped value = false →
      (∀ declared query, Query.ofInput (some text) defaultType value = .ok (declared, query) ↔
        declared = text ∧ query.type.IsNamedBy text ∧
          Query.ofTree? query.type value = some query) ∧
      (∀ type, Query.ofInput (some text) defaultType value = .error (.invalidTree type) ↔
        type.IsNamedBy text ∧ Query.ofTree? type value = none) ∧
      ∀ refusal, Query.ofInput (some text) defaultType value = .error (.unknownType refusal) ↔
        (∀ type : QueryType, ¬ type.IsNamedBy text) ∧ refusal = .unsupportedQueryType text) ∧
    ∀ (files : FileSystem) (environment : Environment) (given : Option String),
      environment.queryType = some text →
      (∀ type, (∃ config, Config.load files environment given = .ok config ∧
          config.defaultType = type) ↔
        type.IsNamedBy text ∧
          ∃ config, Config.load files { environment with queryType := none } given = .ok config) ∧
      ∀ value refusal,
        Config.load files environment given = .error (.invalidType value refusal) ↔
          value = text ∧ (∀ type : QueryType, ¬ type.IsNamedBy text) ∧
            refusal = .unsupportedQueryType text ∧
            ∃ config, Config.load files
              { environment with queryType := none, outputFormat := none } given = .ok config := by
  refine ⟨fun _ => ofText_eq_ok_iff, fun _ => ofText_eq_error_iff, ?_, ?_⟩
  · intro defaultType value hbare
    exact ⟨fun _ _ => Query.ofInput_eq_ok_iff hbare,
      fun _ => Query.ofInput_eq_invalidTree_iff hbare,
      fun _ => Query.ofInput_eq_unknownType_iff hbare⟩
  · intro files environment given hvalue
    exact ⟨fun _ => Config.exists_load_with_type_iff hvalue,
      fun _ _ => Config.load_eq_invalidType_iff hvalue⟩

/-- The ideographic space is a blank and may stand before the word; the space of no width is
none. -/
theorem accepted_iff_named_blanks :
    Query.ofInput (some "\u3000cQL\n") .fcs
        (.obj [("type", .str "search_clause"), ("term", .str "Katze")]) =
      .ok ("\u3000cQL\n", .cql (.searchClause none none "Katze")) ∧
    Config.load ⟨[], "", []⟩ ⟨none, some "fcs\u200b", some "table", false, none, none⟩ none =
      .error (.invalidType "fcs\u200b" (.unsupportedQueryType "fcs\u200b")) := by
  constructor
  · refine (((accepted_iff_named _).2.2.1 _ _ rfl).1 _ _).mpr ⟨rfl, ?_, by cbv⟩
    exact ⟨['\u3000'], ['c', 'Q', 'L'], ['\n'], by decide,
      List.forall_mem_singleton.mpr (by decide +kernel),
      List.forall_mem_singleton.mpr (by decide +kernel), by decide⟩
  · refine (((accepted_iff_named _).2.2.2 _ _ _ rfl).2 _ _).mpr ⟨rfl, ?_, rfl, ⟨.default, rfl⟩⟩
    exact ofText?_eq_none_iff.mp (by decide +kernel)

end QueryType

end CorpusQuery
