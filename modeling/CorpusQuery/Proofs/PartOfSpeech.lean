/-
  CorpusQuery.Proofs.PartOfSpeech

  Which texts name a tag. Both tables are looked up in upper case, where more
  characters than the two cases of a letter come to the letter; the texts that
  name a tag are those that spell it character by character. No name of a tag
  has a part that a ligature could stand for.
-/
import CorpusQuery.PartOfSpeech
import CorpusQuery.Proofs.Json.Members
import CorpusQuery.Proofs.Text.Letters
import CorpusQuery.Proofs.Text.Stops
import Mathlib.Data.List.TakeWhile

namespace CorpusQuery

/-! ## Names -/

theorem UdTag.isPlain_name (tag : UdTag) : Text.IsPlain tag.name.toList := by
  cases tag <;> decide +kernel

theorem SucTag.isPlain_name (tag : SucTag) : Text.IsPlain tag.name.toList := by
  cases tag <;> decide +kernel

theorem UdTag.ofName?_eq_some_iff {name : String} {tag : UdTag} :
    ofName? name = some tag ↔ name = tag.name :=
  find?_word_eq_some_iff ofName?_name

theorem SucTag.ofName?_eq_some_iff {name : String} {tag : SucTag} :
    ofName? name = some tag ↔ name = tag.name :=
  find?_word_eq_some_iff ofName?_name

theorem UdTag.candidates_injective {tag other : UdTag} (h : tag.candidates = other.candidates) :
    tag = other := by
  revert h
  cases tag <;> cases other <;> decide

theorem SucTag.exists_candidates_eq_cons (tag : SucTag) :
    ∃ first more, tag.candidates = first :: more := by
  cases tag <;> exact ⟨_, _, rfl⟩

namespace PartOfSpeech

/-! ## Spellings -/

/-- The text spells a name: it has as many characters, and each stands for the letter in its
place. -/
def Spells (text name : String) : Prop :=
  List.Forall₂ Text.IsVariant name.toList text.toList

instance (text name : String) : Decidable (Spells text name) :=
  inferInstanceAs (Decidable (List.Forall₂ _ _ _))

variable {text name : String}

theorem upper_eq_iff_spells (h : Text.IsPlain name.toList) :
    String.ofList (Text.upper text.toList) = name ↔ Spells text name := by
  rw [Spells, ← Text.upper_eq_iff h]
  constructor
  · rintro rfl
    rw [String.toList_ofList]
  · intro hupper
    rw [hupper, String.ofList_toList]

theorem udOfText?_eq_some_iff {ud : UdTag} : udOfText? text = some ud ↔ Spells text ud.name :=
  UdTag.ofName?_eq_some_iff.trans (upper_eq_iff_spells ud.isPlain_name)

theorem sucOfText?_eq_some_iff {suc : SucTag} : sucOfText? text = some suc ↔ Spells text suc.name :=
  SucTag.ofName?_eq_some_iff.trans (upper_eq_iff_spells suc.isPlain_name)

/-- What stands for a capital letter is a letter from A to Z in either case, or one of two
others. -/
theorem Spells.isAlpha_or (h : Spells text name) (hplain : Text.IsPlain name.toList) :
    ∀ c ∈ text.toList, c.isAlpha = true ∨ c = 'ſ' ∨ c = 'ı' := by
  intro c hc
  obtain ⟨letter, hletter, hflipped⟩ := exists_of_forall₂_of_mem h.flip hc
  have hvariant : Text.IsVariant letter c := hflipped
  exact hvariant.isAlpha_or (hplain.1 letter hletter)

/-! ## Look-up -/

/-- What a look-up in a table is to answer: the candidates of the tag that the text spells, and for
a text that spells none a refusal that carries the text. -/
structure Answers {Tag Candidate : Type} (name : Tag → String) (candidates : Tag → List Candidate)
    (unknown : String → Refusal) (text : String) (answer : Except Refusal (List Candidate)) :
    Prop where
  ok_iff : ∀ found, answer = .ok found ↔ ∃ tag, Spells text (name tag) ∧ candidates tag = found
  error_iff : ∀ refusal, answer = .error refusal ↔
    (∀ tag, ¬ Spells text (name tag)) ∧ refusal = unknown text
  /-- the text spells one tag at most -/
  unique : ∀ tag other, Spells text (name tag) → Spells text (name other) → tag = other
  /-- so that no character from elsewhere is accepted -/
  isAlpha_or : ∀ found, answer = .ok found →
    ∀ c ∈ text.toList, c.isAlpha = true ∨ c = 'ſ' ∨ c = 'ı'

/-- Where a search finds what the text spells, the answer is that of the search. -/
theorem answers_of_search {Tag Candidate : Type} {name : Tag → String}
    {candidates : Tag → List Candidate} {unknown : String → Refusal}
    {answer : Except Refusal (List Candidate)} {found? : Option Tag}
    (hplain : ∀ tag, Text.IsPlain (name tag).toList)
    (hfound : ∀ tag, found? = some tag ↔ Spells text (name tag))
    (hsome : ∀ tag, found? = some tag → answer = .ok (candidates tag))
    (hnone : found? = none → answer = .error (unknown text)) :
    Answers name candidates unknown text answer := by
  have hok : ∀ found, answer = .ok found ↔
      ∃ tag, Spells text (name tag) ∧ candidates tag = found := by
    intro found
    constructor
    · intro hanswer
      cases hsearch : found? with
      | none => cases (hnone hsearch).symm.trans hanswer
      | some tag =>
          exact ⟨tag, (hfound tag).mp hsearch,
            Except.ok.inj ((hsome tag hsearch).symm.trans hanswer)⟩
    · rintro ⟨tag, hspells, rfl⟩
      exact hsome tag ((hfound tag).mpr hspells)
  refine ⟨hok, fun refusal => ?_, fun tag other htag hother => ?_, fun found hanswer => ?_⟩
  · constructor
    · intro hanswer
      cases hsearch : found? with
      | none =>
          refine ⟨fun tag hspells => ?_, Except.error.inj (hanswer.symm.trans (hnone hsearch))⟩
          cases hsearch.symm.trans ((hfound tag).mpr hspells)
      | some tag => cases (hsome tag hsearch).symm.trans hanswer
    · rintro ⟨hspells, rfl⟩
      apply hnone
      rw [Option.eq_none_iff_forall_ne_some]
      exact fun tag hsearch => hspells tag ((hfound tag).mp hsearch)
  · exact Option.some.inj (((hfound tag).mpr htag).symm.trans ((hfound other).mpr hother))
  · obtain ⟨tag, hspells, -⟩ := (hok found).mp hanswer
    exact hspells.isAlpha_or (hplain tag)

theorem answers_sucCandidates (tag : String) :
    Answers UdTag.name UdTag.candidates .unknownUdTag tag (sucCandidates tag) := by
  apply answers_of_search UdTag.isPlain_name fun ud => udOfText?_eq_some_iff
  · intro ud hfound
    rw [sucCandidates, hfound]
  · intro hnone
    rw [sucCandidates, hnone]

/-! ## Attributes -/

/-- The part of a tag before its first full stop; all of the tag if it has none. -/
def IsFront (front tag : String) : Prop :=
  '.' ∉ front.toList ∧ (tag = front ∨ ∃ attributes, tag = front ++ "." ++ attributes)

/-- A tag without its attributes is its front. -/
theorem IsFront.withoutAttributes_eq {front tag : String} (h : IsFront front tag) :
    withoutAttributes tag = front := by
  obtain ⟨hstop, rfl | ⟨attributes, rfl⟩⟩ := h
  · have hall : tag.toList.takeWhile (· ≠ '.') = tag.toList :=
      List.takeWhile_eq_self_iff.mpr (Text.ne_of_mem_front hstop)
    rw [withoutAttributes, hall, String.ofList_toList]
  · have hchars :
        (front ++ "." ++ attributes).toList = front.toList ++ '.' :: attributes.toList := by
      simp
    rw [withoutAttributes, hchars, Text.takeWhile_append_stop hstop, String.ofList_toList]

theorem exists_isFront (tag : String) : ∃ front, IsFront front tag := by
  refine ⟨withoutAttributes tag, ?_, ?_⟩
  · rw [withoutAttributes, String.toList_ofList]
    intro hstop
    exact absurd (List.mem_takeWhile_imp hstop) (by decide)
  · have hsplit := List.takeWhile_append_dropWhile (p := (· ≠ '.')) (l := tag.toList)
    have hhead := List.head?_dropWhile_not (· ≠ '.') tag.toList
    cases hrest : tag.toList.dropWhile (· ≠ '.') with
    | nil =>
        rw [hrest, List.append_nil] at hsplit
        exact .inl (by rw [withoutAttributes, hsplit, String.ofList_toList])
    | cons c attributes =>
        rw [hrest] at hsplit hhead
        have hc : c = '.' := by simpa using hhead
        refine .inr ⟨String.ofList attributes, ?_⟩
        rw [← String.toList_inj, ← hsplit, hc]
        simp [withoutAttributes]

theorem answers_udCandidates {front tag : String} (h : IsFront front tag) :
    Answers SucTag.name SucTag.candidates .unknownSucTag front (udCandidates tag) := by
  apply answers_of_search SucTag.isPlain_name fun suc => sucOfText?_eq_some_iff
  · intro suc hfound
    rw [udCandidates, h.withoutAttributes_eq, hfound]
  · intro hnone
    rw [udCandidates, h.withoutAttributes_eq, hnone]

theorem udCandidates_congr {front tag other : String} (h : IsFront front tag)
    (hother : IsFront front other) : udCandidates other = udCandidates tag := by
  rw [udCandidates, udCandidates, h.withoutAttributes_eq, hother.withoutAttributes_eq]

/-! ## Tags to show -/

theorem exists_cons_of_udCandidates {tag : String} {found : List UdTag}
    (h : udCandidates tag = .ok found) : ∃ first more, found = first :: more := by
  obtain ⟨front, hfront⟩ := exists_isFront tag
  obtain ⟨suc, -, rfl⟩ := ((answers_udCandidates hfront).ok_iff found).mp h
  exact SucTag.exists_candidates_eq_cons suc

theorem shownTag?_eq_some_iff {tag : String} {ud : UdTag} :
    shownTag? tag = some ud ↔ ∃ more, udCandidates tag = .ok (ud :: more) := by
  unfold shownTag?
  cases hfound : udCandidates tag with
  | error refusal => exact ⟨nofun, nofun⟩
  | ok found =>
      obtain ⟨first, more, rfl⟩ := exists_cons_of_udCandidates hfound
      simp

theorem shownTag?_eq_none_iff {tag : String} :
    shownTag? tag = none ↔ ∃ refusal, udCandidates tag = .error refusal := by
  unfold shownTag?
  cases hfound : udCandidates tag with
  | error refusal => exact ⟨fun _ => ⟨refusal, rfl⟩, fun _ => rfl⟩
  | ok found =>
      obtain ⟨first, more, rfl⟩ := exists_cons_of_udCandidates hfound
      exact ⟨nofun, nofun⟩

/-! ## Which texts are accepted -/

/-- A look-up accepts the spellings of the tags in its table and nothing else. A universal tag has
the candidates of the tag that it spells; a SUC tag those of the tag that its front spells, whatever
its attributes are; the tag to show is the first of these. Any other text is refused as it is
written, a SUC tag without its attributes. -/
theorem lookUp_accepts_spellings (tag : String) :
    Answers UdTag.name UdTag.candidates .unknownUdTag tag (sucCandidates tag) ∧
    (∀ ud : UdTag, sucCandidates tag = .ok ud.candidates ↔ Spells tag ud.name) ∧
    (∃ front, IsFront front tag) ∧
    (∀ front, IsFront front tag →
      Answers SucTag.name SucTag.candidates .unknownSucTag front (udCandidates tag) ∧
      ∀ attributes, udCandidates (front ++ "." ++ attributes) = udCandidates tag) ∧
    (∀ ud, shownTag? tag = some ud ↔ ∃ more, udCandidates tag = .ok (ud :: more)) ∧
    (shownTag? tag = none ↔ ∃ refusal, udCandidates tag = .error refusal) := by
  have hud := answers_sucCandidates tag
  refine ⟨hud, fun ud => ?_, exists_isFront tag, fun front hfront => ?_,
    fun ud => shownTag?_eq_some_iff, shownTag?_eq_none_iff⟩
  · rw [hud.ok_iff]
    constructor
    · rintro ⟨other, hspells, hcandidates⟩
      rw [← UdTag.candidates_injective hcandidates]
      exact hspells
    · intro hspells
      exact ⟨ud, hspells, rfl⟩
  · refine ⟨answers_udCandidates hfront, fun attributes => ?_⟩
    exact udCandidates_congr hfront ⟨hfront.1, .inr ⟨attributes, rfl⟩⟩

/-- The long s and the dotless i are letters of a tag, a blank before it and the sign for kelvin are
not, and the attributes of a SUC tag may be anything. -/
theorem lookUp_accepts_spellings_odd :
    sucCandidates "ſcOnj" = .ok UdTag.sconj.candidates ∧
    sucCandidates " NOUN" = .error (.unknownUdTag " NOUN") ∧
    udCandidates "ın.ß.ﬆ" = .ok SucTag.inTag.candidates ∧
    udCandidates "\u212An.SIN" = .error (.unknownSucTag "\u212An") := by
  have hfront : IsFront "ın" "ın.ß.ﬆ" := ⟨by decide, .inr ⟨"ß.ﬆ", by decide⟩⟩
  have hkelvin : IsFront "\u212An" "\u212An.SIN" := ⟨by decide, .inr ⟨"SIN", by decide⟩⟩
  obtain ⟨-, hud, -⟩ := lookUp_accepts_spellings "ſcOnj"
  obtain ⟨hpadded, -⟩ := lookUp_accepts_spellings " NOUN"
  obtain ⟨-, -, -, hsuc, -⟩ := lookUp_accepts_spellings "ın.ß.ﬆ"
  obtain ⟨-, -, -, hrefused, -⟩ := lookUp_accepts_spellings "\u212An.SIN"
  refine ⟨(hud .sconj).mpr (by decide +kernel), ?_, ?_, ?_⟩
  · exact (hpadded.error_iff _).mpr ⟨fun ud => by cases ud <;> decide +kernel, rfl⟩
  · exact ((hsuc _ hfront).1.ok_iff _).mpr ⟨.inTag, by decide +kernel, rfl⟩
  · exact ((hrefused _ hkelvin).1.error_iff _).mpr
      ⟨fun suc => by cases suc <;> decide +kernel, rfl⟩

end PartOfSpeech

end CorpusQuery
