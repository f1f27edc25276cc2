/-
  CorpusQuery.Proofs.Cql.Terms

  Terms put together, and terms made of the words they ask for. Lower case and
  the stripping of quotes work on every word by itself, so that a term is
  translated as its parts between blanks are; and both leave what they have
  made as it is, so that the words of a corpus query make the same corpus query.
-/
import CorpusQuery.Proofs.Cql.Legibility
import CorpusQuery.Proofs.Text.Lowered

namespace CorpusQuery.Cql

open Text (Unbroken Lowered KeptByLower isBlank lower words trimWhere endsIn)

/-! ## Quotes -/

/-- The code points of the two quotation marks. -/
def quoteRanges : List (Nat × Nat) :=
  [(0x22, 0x22), (0x27, 0x27)]

theorem isQuote_eq : isQuote = Text.inRanges quoteRanges := by
  funext c
  have hcode : ∀ mark : Char, (c = mark) ↔ (mark.toNat ≤ c.toNat ∧ c.toNat ≤ mark.toNat) := by
    intro mark
    rw [← Char.toNat_inj]
    omega
  have hdouble := hcode '"'
  have hsingle := hcode '\''
  rw [Bool.eq_iff_iff, Text.inRanges_iff]
  simp only [isQuote, Bool.or_eq_true, decide_eq_true_eq, hdouble, hsingle, quoteRanges,
    List.mem_cons, List.not_mem_nil, or_false, exists_eq_or_imp, exists_eq_left]
  rfl

/-- Lower case neither adds nor removes quotes. -/
theorem keptByLower_isQuote : KeptByLower isQuote := by
  rw [isQuote_eq]
  exact Text.keptByLower_of_apart (by decide +kernel) (by decide +kernel)

/-- The words are a single one that begins or ends with a quote. -/
def isQuotedAlone : List (List Char) → Bool
  | [word] => endsIn isQuote word
  | _ => false

/-- The term is a single word that begins or ends with a quote. -/
def isQuotedWord (term : String) : Bool :=
  isQuotedAlone (words term.toList)

theorem isQuotedAlone_append {first later : List (List Char)} (hfirst : isQuotedAlone first = false)
    (hlater : isQuotedAlone later = false) : isQuotedAlone (first ++ later) = false := by
  cases first with
  | nil => exact hlater
  | cons word rest =>
      cases rest with
      | nil =>
          cases later with
          | nil => exact hfirst
          | cons => rfl
      | cons => rfl

theorem exists_of_isQuotedWord {term : String} (h : isQuotedWord term = true) :
    ∃ word, words term.toList = [word] ∧ endsIn isQuote word = true := by
  unfold isQuotedWord isQuotedAlone at h
  split at h
  case h_1 word hwords => exact ⟨word, hwords, h⟩
  case h_2 => cases h

/-! ## What a term asks for, word by word -/

/-- A word as it is asked for beside others. -/
def strippedWord (word : List Char) : List Char :=
  trimWhere isQuote (lower word)

theorem strippedWord_eq_lower_iff {word : List Char} :
    strippedWord word = lower word ↔ endsIn isQuote word = false := by
  rw [← Text.endsIn_lower keptByLower_isQuote word]
  constructor
  · intro h
    rw [← h]
    exact Text.endsIn_trimWhere isQuote (lower word)
  · exact Text.trimWhere_eq_self

theorem emittedWords_of_many {term : String} (h : 2 ≤ (words term.toList).length) :
    emittedWords term = (words term.toList).map strippedWord := by
  rw [emittedWords, if_pos h]
  rfl

theorem emittedWords_of_few {term : String} (h : ¬ 2 ≤ (words term.toList).length) :
    emittedWords term = (words term.toList).map lower := by
  rw [emittedWords, if_neg h]

/-- Unless a term is a single quoted word, the quotes may be stripped from all its words. -/
theorem emittedWords_of_not_quoted {term : String} (h : isQuotedWord term = false) :
    emittedWords term = (words term.toList).map strippedWord := by
  by_cases hmany : 2 ≤ (words term.toList).length
  · exact emittedWords_of_many hmany
  · rw [emittedWords_of_few hmany]
    unfold isQuotedWord at h
    cases hwords : words term.toList with
    | nil => rfl
    | cons word rest =>
        cases rest with
        | nil =>
            rw [hwords] at h
            have hsame : strippedWord word = lower word := strippedWord_eq_lower_iff.mpr h
            rw [List.map_singleton, List.map_singleton, hsame]
        | cons second rest =>
            rw [hwords] at hmany
            simp only [List.length_cons] at hmany
            omega

/-- The quotes of a single quoted word may not. -/
theorem emittedWords_of_quoted {term : String} (h : isQuotedWord term = true) :
    emittedWords term ≠ (words term.toList).map strippedWord := by
  obtain ⟨word, hword, hquoted⟩ := exists_of_isQuotedWord h
  have hfew : ¬ 2 ≤ (words term.toList).length := by
    rw [hword, List.length_singleton]
    omega
  rw [emittedWords_of_few hfew, hword, List.map_singleton, List.map_singleton]
  intro hsame
  have hends := strippedWord_eq_lower_iff.mp (List.cons.inj hsame).1.symm
  rw [hquoted] at hends
  cases hends

/-! ## Terms around blanks -/

section Blanks

variable {a s b : String}

theorem words_of_blanks (hs : s ≠ "") (hblank : ∀ c ∈ s.toList, isBlank c = true) :
    words (a ++ s ++ b).toList = words a.toList ++ words b.toList := by
  have hne : s.toList ≠ [] := by
    intro h
    exact hs (String.toList_eq_nil_iff.mp h)
  rw [String.toList_append, String.toList_append]
  exact Text.words_append_blanks hne hblank a.toList b.toList

theorem emittedWords_of_blanks (hs : s ≠ "") (hblank : ∀ c ∈ s.toList, isBlank c = true)
    (ha : isQuotedWord a = false) (hb : isQuotedWord b = false) :
    emittedWords (a ++ s ++ b) = emittedWords a ++ emittedWords b := by
  have hwords := words_of_blanks hs hblank (a := a) (b := b)
  have hjoined : isQuotedWord (a ++ s ++ b) = false := by
    rw [isQuotedWord, hwords]
    exact isQuotedAlone_append ha hb
  rw [emittedWords_of_not_quoted ha, emittedWords_of_not_quoted hb,
    emittedWords_of_not_quoted hjoined, hwords, List.map_append]

/-- A word that keeps its quotes when it stands alone loses them beside other words. -/
theorem emittedWords_of_blanks_ne (hs : s ≠ "") (hblank : ∀ c ∈ s.toList, isBlank c = true)
    (h : isQuotedWord a = true ∧ words b.toList ≠ [] ∨
      isQuotedWord b = true ∧ words a.toList ≠ []) :
    emittedWords (a ++ s ++ b) ≠ emittedWords a ++ emittedWords b := by
  have hwords := words_of_blanks hs hblank (a := a) (b := b)
  have hquotedWords : ∀ {term : String}, isQuotedWord term = true → words term.toList ≠ [] := by
    intro term hquoted hnone
    obtain ⟨word, hword, -⟩ := exists_of_isQuotedWord hquoted
    rw [hnone] at hword
    cases hword
  -- Both terms have words, so that all of them are stripped in the term that they make.
  have hmany : 2 ≤ (words (a ++ s ++ b).toList).length := by
    have hboth : 0 < (words a.toList).length ∧ 0 < (words b.toList).length := by
      rcases h with ⟨hquoted, hother⟩ | ⟨hquoted, hother⟩
      · exact ⟨List.length_pos_iff.mpr (hquotedWords hquoted), List.length_pos_iff.mpr hother⟩
      · exact ⟨List.length_pos_iff.mpr hother, List.length_pos_iff.mpr (hquotedWords hquoted)⟩
    rw [hwords, List.length_append]
    omega
  intro hsame
  rw [emittedWords_of_many hmany, hwords, List.map_append] at hsame
  have hlength : ((words a.toList).map strippedWord).length = (emittedWords a).length := by
    rw [List.length_map, length_emittedWords]
  obtain ⟨hfirst, hlater⟩ := List.append_inj hsame hlength
  rcases h with ⟨hquoted, -⟩ | ⟨hquoted, -⟩
  · exact emittedWords_of_quoted hquoted hfirst.symm
  · exact emittedWords_of_quoted hquoted hlater.symm

end Blanks

/-- A term is translated at its blanks: around blanks that separate two terms, of which none is a
single quoted word, it has the corpus query of the first and then that of the second. The proviso is
needed as soon as the other term has words. Lower case, though it is of the term as a whole, gives
each word the form that the word has by itself. -/
theorem toCqp_splits_at_blanks :
    (∀ a s b : String, s ≠ "" → (∀ c ∈ s.toList, isBlank c = true) →
      ∃ first later, (Node.ofTerm a).toCqp.outcome = .ok first ∧
        (Node.ofTerm b).toCqp.outcome = .ok later ∧
        (isQuotedWord a = false → isQuotedWord b = false →
          (Node.ofTerm (a ++ s ++ b)).toCqp.outcome = .ok (first ++ later)) ∧
        (isQuotedWord a = true ∧ words b.toList ≠ [] ∨
            isQuotedWord b = true ∧ words a.toList ≠ [] →
          (Node.ofTerm (a ++ s ++ b)).toCqp.outcome ≠ .ok (first ++ later))) ∧
    ∀ term : String, words (lower term.toList) = (words term.toList).map lower := by
  refine ⟨?_, fun term => Text.words_lower term.toList⟩
  intro a s b hs hblank
  have htext : ∀ term : String, (Node.ofTerm term).toCqp.outcome =
      .ok (String.ofList ((emittedWords term).flatMap block)) :=
    outcome_toCqp_searchClause none none
  have hjoin : String.ofList ((emittedWords a).flatMap block) ++
      String.ofList ((emittedWords b).flatMap block) =
        String.ofList ((emittedWords a ++ emittedWords b).flatMap block) := by
    rw [List.flatMap_append, String.ofList_append]
  refine ⟨_, _, htext a, htext b, ?_, ?_⟩
  · intro ha hb
    rw [htext, hjoin, emittedWords_of_blanks hs hblank ha hb]
  · intro hquoted hsame
    apply emittedWords_of_blanks_ne hs hblank hquoted
    rw [htext, hjoin] at hsame
    have hchars := String.ofList_injective (Except.ok.inj hsame)
    -- The words can be read back from the text, also those of two terms.
    have hfree : ∀ word ∈ emittedWords a ++ emittedWords b, Unbroken word := by
      intro word hword
      rcases List.mem_append.mp hword with hword | hword
      · exact unbroken_of_mem_emittedWords hword
      · exact unbroken_of_mem_emittedWords hword
    rw [← readWords_flatMap_block hfree, ← hchars,
      readWords_flatMap_block fun _ => unbroken_of_mem_emittedWords]

/-- Sigmas at the ends of words, a dotted capital, and a quoted word beside another one. -/
theorem toCqp_splits_at_blanks_sigma :
    ∃ first later, (Node.ofTerm "ΟΔΟΣ").toCqp.outcome = .ok first ∧
      (Node.ofTerm "'Σ' \"İΣ").toCqp.outcome = .ok later ∧
      (Node.ofTerm "ΟΔΟΣ\u2003\t'Σ' \"İΣ").toCqp.outcome = .ok (first ++ later) := by
  have hblank : ∀ c ∈ "\u2003\t".toList, isBlank c = true := List.all_eq_true.mp (by decide)
  obtain ⟨first, later, hfirst, hlater, hsplit, -⟩ :=
    toCqp_splits_at_blanks.1 "ΟΔΟΣ" "\u2003\t" "'Σ' \"İΣ" (by decide) hblank
  exact ⟨first, later, hfirst, hlater, hsplit (by decide +kernel) (by decide +kernel)⟩

/-! ## Terms of emitted words -/

/-- The words that a term asks for are in lower case and have no blanks in them. -/
theorem lowered_of_mem_emittedWords {term : String} {word : List Char}
    (h : word ∈ emittedWords term) : Lowered word := by
  intro c hc
  unfold emittedWords at h
  split at h
  · obtain ⟨source, -, rfl⟩ := List.mem_map.mp h
    exact Text.lowered_lower source c (Text.mem_of_mem_trimWhere hc)
  · obtain ⟨source, -, rfl⟩ := List.mem_map.mp h
    exact Text.lowered_lower source c hc

/-- Two or more of them neither begin nor end with quotes. -/
theorem endsIn_of_mem_emittedWords {term : String} (hmany : 2 ≤ (emittedWords term).length)
    {word : List Char} (h : word ∈ emittedWords term) : endsIn isQuote word = false := by
  rw [length_emittedWords] at hmany
  rw [emittedWords_of_many hmany] at h
  obtain ⟨source, -, rfl⟩ := List.mem_map.mp h
  exact Text.endsIn_trimWhere isQuote (lower source)

/-- The words that a term asks for, joined by single blanks. -/
def joinedWords (term : String) : String :=
  String.intercalate " " ((emittedWords term).map String.ofList)

theorem words_joinedWords {term : String} (h : ∀ word ∈ emittedWords term, word ≠ []) :
    words (joinedWords term).toList = emittedWords term := by
  have hchars : (joinedWords term).toList = [' '].intercalate (emittedWords term) := by
    rw [joinedWords, String.toList_intercalate, List.map_map]
    simp [Function.comp_def]
  rw [hchars]
  apply Text.words_intercalate
  intro word hword
  exact ⟨unbroken_of_mem_emittedWords hword, h word hword⟩

theorem emittedWords_joinedWords {term : String} (h : ∀ word ∈ emittedWords term, word ≠ []) :
    emittedWords (joinedWords term) = emittedWords term := by
  have hwords := words_joinedWords h
  have hlower : ∀ word ∈ emittedWords term, lower word = word :=
    fun word hword => (lowered_of_mem_emittedWords hword).lower_eq
  by_cases hmany : 2 ≤ (emittedWords term).length
  · have hlength : 2 ≤ (words (joinedWords term).toList).length := by
      rw [hwords]
      exact hmany
    have hstripped : ∀ word ∈ emittedWords term, strippedWord word = word := by
      intro word hword
      have hends := endsIn_of_mem_emittedWords hmany hword
      rw [strippedWord_eq_lower_iff.mpr hends, hlower word hword]
    rw [emittedWords_of_many hlength, hwords, List.map_congr_left hstripped, List.map_id']
  · have hlength : ¬ 2 ≤ (words (joinedWords term).toList).length := by
      rw [hwords]
      exact hmany
    rw [emittedWords_of_few hlength, hwords, List.map_congr_left hlower, List.map_id']

/-- The corpus query of a term says all that is left of it: if none of the words that it asks for is
empty, they make a term with the same corpus query. They are in lower case, are split at the blanks
between them, and have no more quotes to lose. -/
theorem toCqp_of_emittedWords (index relation : Option String) (term : String)
    (h : ∀ word ∈ emittedWords term, word ≠ []) :
    (∃ text, (Node.searchClause index relation term).toCqp.outcome = .ok text ∧
      (Node.ofTerm (joinedWords term)).toCqp.outcome = .ok text) ∧
    emittedWords (joinedWords term) = emittedWords term ∧
    words (joinedWords term).toList = emittedWords term ∧
    ∀ word ∈ emittedWords term, lower word = word := by
  have hsame := emittedWords_joinedWords h
  have htext := outcome_toCqp_searchClause none none (joinedWords term)
  rw [hsame] at htext
  exact ⟨⟨_, outcome_toCqp_searchClause index relation term, htext⟩, hsame, words_joinedWords h,
    fun word hword => (lowered_of_mem_emittedWords hword).lower_eq⟩

/-- Quotes within words stay, and a sigma that is final stays final before a blank. -/
theorem toCqp_of_emittedWords_quotes :
    (∀ word ∈ emittedWords "\"Can'T\" ''ΟΔΟΣ'\u3000İΣ'Σ", word ≠ []) ∧
    ∃ text, (Node.searchClause (some "cql.serverChoice") none
        "\"Can'T\" ''ΟΔΟΣ'\u3000İΣ'Σ").toCqp.outcome = .ok text ∧
      (Node.ofTerm (joinedWords "\"Can'T\" ''ΟΔΟΣ'\u3000İΣ'Σ")).toCqp.outcome = .ok text := by
  have hwords : ∀ word ∈ emittedWords "\"Can'T\" ''ΟΔΟΣ'\u3000İΣ'Σ", word ≠ [] := by
    decide +kernel
  exact ⟨hwords, (toCqp_of_emittedWords (some "cql.serverChoice") none _ hwords).1⟩

end CorpusQuery.Cql
