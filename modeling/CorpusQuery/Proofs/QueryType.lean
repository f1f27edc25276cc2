/-
  CorpusQuery.Proofs.QueryType

  Which texts name a query language. A text is trimmed and put in lower case
  before it is compared. What comes to the word for a language is the word in
  ASCII letters of either case, between blanks or by itself, and nothing else.
-/
import CorpusQuery.Diagnostic
import CorpusQuery.Proofs.Text.Letters
import CorpusQuery.Proofs.Text.Lowered

namespace CorpusQuery

namespace Text

/-- A letter from A to Z is no blank. -/
theorem not_isBlank_of_isLower_toLower {c : Char} (h : c.toLower.isLower = true) :
    isBlank c = false := by
  have hletters : inRanges [(0x41, 0x5A), (0x61, 0x7A)] c = true := by
    rw [isLower_iff, toNat_toLower] at h
    rw [inRanges_iff]
    by_cases hc : c.isUpper = true
    · exact ⟨(0x41, 0x5A), by simp, isUpper_iff.mp hc⟩
    · rw [if_neg hc] at h
      exact ⟨(0x61, 0x7A), by simp, h⟩
  exact inRanges_eq_false_of_apart
    (by decide +kernel : apart [(0x41, 0x5A), (0x61, 0x7A)] blankRanges = true) hletters

theorem endsIn_of_unbroken {text : List Char} (h : Unbroken text) :
    endsIn isBlank text = false := by
  rw [endsIn_eq_false_iff]
  constructor
  · cases hhead : text.head? with
    | none => rfl
    | some c => exact h c (List.mem_of_head? hhead)
  · cases hlast : text.getLast? with
    | none => rfl
    | some c => exact h c (List.mem_of_getLast? hlast)

end Text

namespace QueryType

/-! ## Texts that name a language -/

/-- The text names the language: its word, in ASCII letters of either case, with blanks before and
after it or none. -/
def IsNamedBy (type : QueryType) (text : String) : Prop :=
  ∃ front word back : List Char, text.toList = front ++ word ++ back ∧
    (∀ c ∈ front, Text.isBlank c = true) ∧ (∀ c ∈ back, Text.isBlank c = true) ∧
    word.map Char.toLower = type.word.toList

variable {text : String} {type : QueryType}

theorem ofWord?_eq_some_iff {word : String} : ofWord? word = some type ↔ word = type.word := by
  constructor
  · intro h
    unfold ofWord? at h
    split at h
    case isTrue hcql =>
      cases h
      exact hcql
    case isFalse =>
      split at h
      case isTrue hfcs =>
        cases h
        exact hfcs
      case isFalse => cases h
  · rintro rfl
    exact ofWord?_word type

/-- None of the letters of the words is k. -/
theorem isLower_of_mem_word :
    ∀ letter ∈ type.word.toList, letter.isLower = true ∧ letter ≠ 'k' := by
  have hall : type.word.toList.all (fun letter => letter.isLower && letter ≠ 'k') = true := by
    cases type <;> decide
  intro letter hletter
  simpa using List.all_eq_true.mp hall letter hletter

/-- A text up to the case of its letters is a word only if it has no blanks in it. -/
theorem unbroken_of_map_toLower {word : List Char}
    (h : word.map Char.toLower = type.word.toList) : Text.Unbroken word := by
  intro c hc
  have hletter : c.toLower ∈ type.word.toList := by
    rw [← h]
    exact List.mem_map_of_mem hc
  exact Text.not_isBlank_of_isLower_toLower (isLower_of_mem_word _ hletter).1

theorem ofText?_eq_some_iff : ofText? text = some type ↔ type.IsNamedBy text := by
  have hword : ofText? text = some type ↔
      (Text.trim text.toList).map Char.toLower = type.word.toList := by
    rw [ofText?, ofWord?_eq_some_iff, ← Text.lower_eq_iff isLower_of_mem_word]
    constructor
    · intro h
      rw [← h, String.toList_ofList]
    · intro h
      rw [h, String.ofList_toList]
  rw [hword]
  constructor
  · intro h
    obtain ⟨front, back, hsplit, hfront, hback⟩ :=
      Text.exists_sides_of_trimWhere Text.isBlank text.toList
    exact ⟨front, Text.trim text.toList, back, hsplit, hfront, hback, h⟩
  · rintro ⟨front, word, back, hsplit, hfront, hback, h⟩
    have hne : word ≠ [] := by
      rintro rfl
      cases type <;> cases h
    have hends := Text.endsIn_of_unbroken (unbroken_of_map_toLower h)
    rw [Text.trim, hsplit, Text.trimWhere_of_sides hne hends hfront hback]
    exact h

/-- No text names both languages. -/
theorem IsNamedBy.unique {other : QueryType} (h : type.IsNamedBy text)
    (hother : other.IsNamedBy text) : type = other :=
  Option.some.inj ((ofText?_eq_some_iff.mpr h).symm.trans (ofText?_eq_some_iff.mpr hother))

theorem ofText?_eq_none_iff : ofText? text = none ↔ ∀ type : QueryType, ¬ type.IsNamedBy text := by
  rw [Option.eq_none_iff_forall_ne_some]
  exact forall_congr' fun type => not_congr ofText?_eq_some_iff

/-! ## What a declared text is read as -/

theorem ofText_word (type : QueryType) : ofText type.word = .ok type := by
  cases type <;> decide +kernel

theorem ofText_eq_ok_iff_ofText? : ofText text = .ok type ↔ ofText? text = some type := by
  unfold ofText
  cases ofText? text with
  | none => exact ⟨nofun, nofun⟩
  | some found => rw [Except.ok.injEq, Option.some.injEq]

/-- The only error is that the text names no language. -/
theorem ofText_of_none (h : ofText? text = none) :
    ofText text = .error (.unsupportedQueryType text) := by
  rw [ofText, h]

theorem ofText_eq_ok_iff : ofText text = .ok type ↔ type.IsNamedBy text :=
  ofText_eq_ok_iff_ofText?.trans ofText?_eq_some_iff

/-- The error carries the text as it is. -/
theorem ofText_eq_error_iff {refusal : Refusal} :
    ofText text = .error refusal ↔
      (∀ type : QueryType, ¬ type.IsNamedBy text) ∧ refusal = .unsupportedQueryType text := by
  rw [← ofText?_eq_none_iff]
  constructor
  · intro h
    cases hread : ofText? text with
    | none => exact ⟨rfl, Except.error.inj (h.symm.trans (ofText_of_none hread))⟩
    | some type => cases h.symm.trans (ofText_eq_ok_iff_ofText?.mpr hread)
  · rintro ⟨hnone, rfl⟩
    exact ofText_of_none hnone

end QueryType

end CorpusQuery
