/-
  CorpusQuery.Proofs.Cql.Legibility

  The words of a term can be read back from the text of its corpus query,
  although nothing in them is escaped. Words hold no blank, and the text in
  front of a word holds two; so no word looks like the beginning of another,
  whatever quotes and brackets it is made of.
-/
import CorpusQuery.Cql.Tokens
import CorpusQuery.Proofs.Text.Words

namespace CorpusQuery.Cql

open Text (Unbroken isBlank lower pieces trimWhere)

/-! ## The words that are asked for -/

/-- The words that a search clause asks for: the words of its term, each in lower case, and without
the quotes around it if there are two or more. -/
def emittedWords (term : String) : List (List Char) :=
  if 2 ≤ (Text.words term.toList).length then
    (Text.words term.toList).map fun word => trimWhere isQuote (lower word)
  else (Text.words term.toList).map lower

theorem termWords_eq (term : String) : termWords term = emittedWords term := by
  rw [termWords, emittedWords, Text.words_lower]
  cases Text.words term.toList with
  | nil => rfl
  | cons first rest =>
      cases rest with
      | nil => rfl
      | cons second rest =>
          have hmany : 2 ≤ (first :: second :: rest).length := by
            simp only [List.length_cons]
            omega
          rw [if_pos hmany]
          show ((first :: second :: rest).map lower).map (trimWhere isQuote) = _
          rw [List.map_map]
          rfl

theorem length_emittedWords (term : String) :
    (emittedWords term).length = (Text.words term.toList).length := by
  unfold emittedWords
  split
  · exact List.length_map _
  · exact List.length_map _

/-- No blank gets into the words. -/
theorem unbroken_of_mem_emittedWords {term : String} {word : List Char}
    (h : word ∈ emittedWords term) : Unbroken word := by
  intro c hc
  unfold emittedWords at h
  split at h
  · obtain ⟨source, hsource, rfl⟩ := List.mem_map.mp h
    exact (Text.unbroken_of_mem_words hsource).lower c (Text.mem_of_mem_trimWhere hc)
  · obtain ⟨source, hsource, rfl⟩ := List.mem_map.mp h
    exact (Text.unbroken_of_mem_words hsource).lower c hc

/-! ## The text of a search clause -/

/-- What stands in front of a word. -/
def marker : List Char :=
  "[word = '".toList

/-- The constraint on a word. -/
def block (word : List Char) : List Char :=
  marker ++ word ++ "']".toList

/-- A constraint in pieces between blanks. -/
theorem block_eq (word : List Char) :
    block word = "[word".toList ++ ' ' :: '=' :: ' ' :: '\'' :: (word ++ "']".toList) := by
  have hmarker : marker = "[word".toList ++ [' ', '=', ' ', '\''] := by decide
  rw [block, hmarker]
  simp only [List.append_assoc, List.cons_append, List.nil_append]

theorem chars_wordToken (word : List Char) : (wordToken word).chars = block word := by
  have hmarker :
      marker = '[' :: "word ".toList ++ (Cqp.comparison false).toList ++ [' ', '\''] := by
    decide
  have hend : "']".toList = ['\'', ']'] := by decide
  have hflags : Cqp.Flags.none.suffix = [] := rfl
  simp only [wordToken, Cqp.Token.chars, Cqp.Constraint.chars_word, Cqp.quoted, block, hmarker,
    hend, hflags, String.toList_ofList, List.append_assoc, List.cons_append, List.nil_append]

/-- A search clause always has a corpus query: its constraints one after the other. -/
theorem outcome_toCqp_searchClause (index relation : Option String) (term : String) :
    (Node.searchClause index relation term).toCqp.outcome =
      .ok (String.ofList ((emittedWords term).flatMap block)) := by
  have htokens : (Node.searchClause index relation term).tokens.outcome =
      .ok ((emittedWords term).map wordToken) := by
    rw [← termWords_eq, Node.tokens]
    split
    · rfl
    · rfl
  rw [Node.toCqp]
  simp only [Logged.outcome_bind, Logged.outcome_report, Logged.outcome_pure, Except.bind, htokens]
  rw [Cqp.render, List.flatMap_map]
  simp only [chars_wordToken]

/-! ## Counting the constraints -/

/-- The number of places in a text at which a pattern begins. -/
def occurrences (pattern : List Char) : List Char → Nat
  | [] => 0
  | c :: rest => (if pattern.isPrefixOf (c :: rest) then 1 else 0) + occurrences pattern rest

/-- The text is empty or goes on with a constraint. -/
def Opens (text : List Char) : Prop :=
  ∀ c ∈ text.head?, c = '['

theorem opens_flatMap_block (words : List (List Char)) : Opens (words.flatMap block) := by
  cases words with
  | nil => exact nofun
  | cons word rest =>
      intro c hc
      exact (Option.some.inj hc).symm

theorem marker_prefix_cons {c : Char} {rest : List Char} (h : marker <+: c :: rest) : c = '[' := by
  obtain ⟨last, hlast⟩ := h
  exact (List.cons.inj hlast).1.symm

/-- No marker begins within text that holds no blank. It would have to go on behind that text, where
the next one begins, but its bracket stands only at its front. -/
theorem not_marker_prefix {near rest : List Char} (hne : near ≠ [])
    (hfree : Unbroken near) (hrest : Opens rest) : ¬ marker <+: near ++ rest := by
  intro h
  have hblank : ¬ marker <+: near := by
    intro hmarker
    have hmem : ' ' ∈ near := hmarker.mem (by decide)
    exact absurd (hfree ' ' hmem) (by decide)
  -- Either the marker ends within this text, or this text is the front of the marker.
  rcases List.prefix_or_prefix_of_prefix h (List.prefix_append near rest) with hmarker | hnear
  · exact hblank hmarker
  · obtain ⟨last, hlast⟩ := hnear
    rw [← hlast, List.prefix_append_right_inj] at h
    cases last with
    | nil =>
        have heq : near = marker := by rw [← hlast, List.append_nil]
        rw [heq] at hblank
        exact hblank List.prefix_rfl
    | cons c last =>
        obtain ⟨far, hfar⟩ := h
        have hc : c = '[' := hrest c (by rw [← hfar]; rfl)
        cases near with
        | nil => exact hne rfl
        | cons d near =>
            have htail : near ++ c :: last = marker.tail := congrArg List.tail hlast
            have hmem : c ∈ marker.tail := by
              rw [← htail]
              exact List.mem_append_right _ List.mem_cons_self
            rw [hc] at hmem
            exact absurd hmem (by decide)

theorem occurrences_cons_of_not_prefix {c : Char} {rest : List Char}
    (h : ¬ marker <+: c :: rest) : occurrences marker (c :: rest) = occurrences marker rest := by
  have hfalse : marker.isPrefixOf (c :: rest) = false := by
    rw [Bool.eq_false_iff]
    exact fun htrue => h (List.isPrefixOf_iff_prefix.mp htrue)
  rw [occurrences, hfalse]
  exact Nat.zero_add _

/-- Text without blanks adds no marker. -/
theorem occurrences_append_of_unbroken {near rest : List Char} (hfree : Unbroken near)
    (hrest : Opens rest) : occurrences marker (near ++ rest) = occurrences marker rest := by
  induction near with
  | nil => rfl
  | cons c near ih =>
      have hprefix : ¬ marker <+: c :: (near ++ rest) :=
        not_marker_prefix (List.cons_ne_nil c near) hfree hrest
      rw [List.cons_append, occurrences_cons_of_not_prefix hprefix]
      exact ih (List.forall_mem_cons.mp hfree).2

/-- Nor does text without opening brackets. -/
theorem occurrences_append_of_not_mem {near rest : List Char} (h : '[' ∉ near) :
    occurrences marker (near ++ rest) = occurrences marker rest := by
  induction near with
  | nil => rfl
  | cons c near ih =>
      obtain ⟨hc, hnear⟩ := not_or.mp fun hmem => h (List.mem_cons.mpr hmem)
      have hprefix : ¬ marker <+: c :: (near ++ rest) :=
        fun hprefix => hc (marker_prefix_cons hprefix).symm
      rw [List.cons_append, occurrences_cons_of_not_prefix hprefix]
      exact ih hnear

theorem occurrences_marker_append (rest : List Char) :
    occurrences marker (marker ++ rest) = 1 + occurrences marker rest := by
  have hmarker : marker = '[' :: marker.tail := by decide
  have htrue : marker.isPrefixOf ('[' :: (marker.tail ++ rest)) = true := by
    rw [List.isPrefixOf_iff_prefix, ← List.cons_append, ← hmarker]
    exact List.prefix_append marker rest
  -- Behind its first character the marker has no bracket.
  have htail : occurrences marker (marker.tail ++ rest) = occurrences marker rest :=
    occurrences_append_of_not_mem (by decide)
  have hstart : occurrences marker (marker ++ rest) =
      occurrences marker ('[' :: (marker.tail ++ rest)) := by
    rw [← List.cons_append, ← hmarker]
  rw [hstart, occurrences, htrue, htail]
  rfl

/-- Every word has its marker, and there is no other. -/
theorem occurrences_flatMap_block {words : List (List Char)}
    (h : ∀ word ∈ words, Unbroken word) :
    occurrences marker (words.flatMap block) = words.length := by
  induction words with
  | nil => rfl
  | cons word rest ih =>
      obtain ⟨hword, hrest⟩ := List.forall_mem_cons.mp h
      have hend : Unbroken (word ++ "']".toList) := hword.append (by decide)
      rw [List.flatMap_cons, block, List.append_assoc, List.append_assoc, occurrences_marker_append,
        ← List.append_assoc, occurrences_append_of_unbroken hend (opens_flatMap_block rest),
        ih hrest, List.length_cons, Nat.add_comm]

/-! ## Reading the words back -/

/-- The word in a piece between blanks that begins with a quote: what follows the word is the end
of its constraint, and perhaps the front of the next. -/
def readWord (piece : List Char) : List Char :=
  match piece.tail.reverse with
  | ']' :: '\'' :: word => word.reverse
  | 'd' :: 'r' :: 'o' :: 'w' :: '[' :: ']' :: '\'' :: word => word.reverse
  | _ => []

/-- Reads the words of the constraints in a text. -/
def readWords (text : List Char) : List (List Char) :=
  ((pieces text).filter fun piece => piece.head? = some '\'').map readWord

theorem readWord_last (word : List Char) : readWord ('\'' :: (word ++ "']".toList)) = word := by
  have hend : "']".toList.reverse = [']', '\''] := by decide
  rw [readWord, List.tail_cons, List.reverse_append, hend]
  exact List.reverse_reverse word

theorem readWord_inner (word : List Char) :
    readWord ('\'' :: (word ++ "'][word".toList)) = word := by
  have hend : "'][word".toList.reverse = ['d', 'r', 'o', 'w', '[', ']', '\''] := by decide
  rw [readWord, List.tail_cons, List.reverse_append, hend]
  exact List.reverse_reverse word

theorem readWords_append_blank {b : Char} (hb : isBlank b = true) (front rest : List Char) :
    readWords (front ++ b :: rest) = readWords front ++ readWords rest := by
  rw [readWords, Text.pieces_append_blank hb, List.filter_append, List.map_append]
  rfl

/-- A piece between blanks is read if it begins with a quote. -/
theorem readWords_quote {piece : List Char} (h : Unbroken piece) :
    readWords ('\'' :: piece) = [readWord ('\'' :: piece)] := by
  have hfree : Unbroken ('\'' :: piece) :=
    List.forall_mem_cons.mpr ⟨by decide, h⟩
  rw [readWords, Text.pieces_eq_singleton hfree]
  rfl

/-- From its equals sign on, a constraint gives its word, and the constraints after it give
theirs. -/
theorem readWords_equals {word : List Char} {words : List (List Char)}
    (hword : Unbroken word) (hwords : ∀ word ∈ words, Unbroken word) :
    readWords ('=' :: ' ' :: '\'' :: (word ++ "']".toList ++ words.flatMap block)) =
      word :: words := by
  have hequals : readWords ['='] = [] := by decide
  induction words generalizing word with
  | nil =>
      have hlast : Unbroken (word ++ "']".toList) :=
        hword.append (by decide)
      have hread :=
        readWords_append_blank (b := ' ') (by decide) ['='] ('\'' :: (word ++ "']".toList))
      rw [List.flatMap_nil, List.append_nil]
      rw [hequals, readWords_quote hlast, readWord_last] at hread
      exact hread
  | cons next rest ih =>
      obtain ⟨hnext, hrest⟩ := List.forall_mem_cons.mp hwords
      have hinner : Unbroken (word ++ "'][word".toList) :=
        hword.append (by decide)
      -- The piece with the word reaches to the first blank of the next constraint.
      have htext : '=' :: ' ' :: '\'' :: (word ++ "']".toList ++ (next :: rest).flatMap block) =
          ['='] ++ ' ' :: (('\'' :: (word ++ "'][word".toList)) ++
            ' ' :: '=' :: ' ' :: '\'' :: (next ++ "']".toList ++ rest.flatMap block)) := by
        have hjoin : "'][word".toList = "']".toList ++ "[word".toList := by decide
        simp only [List.flatMap_cons, block_eq, hjoin, List.append_assoc, List.cons_append,
          List.nil_append]
      rw [htext, readWords_append_blank (by decide), readWords_append_blank (by decide), hequals,
        readWords_quote hinner, readWord_inner, ih hnext hrest]
      rfl

/-- The words are read back as they are. -/
theorem readWords_flatMap_block {words : List (List Char)}
    (h : ∀ word ∈ words, Unbroken word) :
    readWords (words.flatMap block) = words := by
  cases words with
  | nil => decide
  | cons word rest =>
      obtain ⟨hword, hrest⟩ := List.forall_mem_cons.mp h
      have hfront : readWords "[word".toList = [] := by decide
      have htext : (word :: rest).flatMap block =
          "[word".toList ++
            ' ' :: '=' :: ' ' :: '\'' :: (word ++ "']".toList ++ rest.flatMap block) := by
        simp only [List.flatMap_cons, block_eq, List.append_assoc, List.cons_append]
      rw [htext, readWords_append_blank (by decide), hfront, readWords_equals hword hrest]
      rfl

/-! ## Search clauses -/

/-- Nothing in a term forges or hides a constraint: the corpus query of a search clause has as many
as the term has words, and the words they ask for can be read from it. So two search clauses have
the same corpus query exactly if they ask for the same words. -/
theorem searchClause_legible :
    (∀ index relation term, ∃ text : String,
      (Node.searchClause index relation term).toCqp.outcome = .ok text ∧
      occurrences marker text.toList = (Text.words term.toList).length ∧
      readWords text.toList = emittedWords term) ∧
    ∀ index relation term index' relation' term',
      (Node.searchClause index relation term).toCqp.outcome =
          (Node.searchClause index' relation' term').toCqp.outcome ↔
        emittedWords term = emittedWords term' := by
  have hread : ∀ term, readWords ((emittedWords term).flatMap block) = emittedWords term :=
    fun term => readWords_flatMap_block fun _ => unbroken_of_mem_emittedWords
  constructor
  · intro index relation term
    refine ⟨_, outcome_toCqp_searchClause index relation term, ?_, ?_⟩
    · rw [String.toList_ofList, ← length_emittedWords]
      exact occurrences_flatMap_block fun _ => unbroken_of_mem_emittedWords
    · rw [String.toList_ofList, hread]
  · intro index relation term index' relation' term'
    rw [outcome_toCqp_searchClause, outcome_toCqp_searchClause]
    constructor
    · intro h
      -- The same text is read in the same way.
      have htext := String.ofList_injective (Except.ok.inj h)
      rw [← hread term, ← hread term', htext]
    · intro h
      rw [h]

/-- The term `'][word = 'X` asks for three words and forges no constraint. -/
example :
    emittedWords "'][word = 'X" = ["][word".toList, "=".toList, "x".toList] ∧
    readWords "[word = '][word'][word = '='][word = 'x']".toList =
      ["][word".toList, "=".toList, "x".toList] := by
  decide +kernel

end CorpusQuery.Cql
