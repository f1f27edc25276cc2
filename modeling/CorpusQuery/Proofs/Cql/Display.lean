/-
  CorpusQuery.Proofs.Cql.Display

  The text that shows a CQL query can be read in one way only. A query is told
  by its first character: a parenthesis begins two queries with an operator
  between them, a quote begins a term, and anything else begins an index. A
  reader therefore knows where a query ends without looking further, and terms
  may hold blanks, parentheses and operator words.
-/
import CorpusQuery.Cql.Basic
import CorpusQuery.Proofs.Text.Stops

namespace CorpusQuery.Cql

open Text (readUpTo? readUpTo?_append)

/-! ## What is shown -/

/-- The part of a query that its text shows. The modifiers of operators are left out, and so is a
relation without an index; an index without a relation has the equals sign. -/
def Node.shown : Node → Node
  | .triple operator left right => .join operator.value left.shown right.shown
  | .searchClause none _ term => .ofTerm term
  | .searchClause (some index) relation term =>
    .searchClause (some index) (some (relation.getD "=")) term

/-- What is shown of a query is all that its text depends on. -/
theorem Node.displayChars_shown (node : Node) : node.shown.displayChars = node.displayChars := by
  induction node with
  | triple operator left right ihLeft ihRight =>
      rw [shown, join, displayChars, displayChars, ihLeft, ihRight]
  | searchClause index relation term =>
      cases index with
      | none => rfl
      | some index => rfl

/-! ## Queries that can be read -/

/-- A name of an index or a relation: it holds no space, no double quote and no parenthesis. -/
structure IsName (name : String) : Prop where
  noSpace : ' ' ∉ name.toList
  noQuote : '"' ∉ name.toList
  noOpening : '(' ∉ name.toList
  noClosing : ')' ∉ name.toList

/-- The indexes and relations of the query are names, and its terms hold no double quote. -/
def Node.Legible : Node → Prop
  | .triple _ left right => left.Legible ∧ right.Legible
  | .searchClause index relation term =>
    (∀ name ∈ index, IsName name) ∧ (∀ name ∈ relation, IsName name) ∧ '"' ∉ term.toList

instance (name : String) : Decidable (IsName name) :=
  decidable_of_iff (' ' ∉ name.toList ∧ '"' ∉ name.toList ∧ '(' ∉ name.toList ∧ ')' ∉ name.toList)
    ⟨fun ⟨space, quote, opening, closing⟩ => ⟨space, quote, opening, closing⟩,
      fun h => ⟨h.noSpace, h.noQuote, h.noOpening, h.noClosing⟩⟩

instance Node.decidableLegible : (node : Node) → Decidable node.Legible
  | .triple _ left right =>
    have := left.decidableLegible
    have := right.decidableLegible
    inferInstanceAs (Decidable (left.Legible ∧ right.Legible))
  | .searchClause index relation term =>
    inferInstanceAs (Decidable
      ((∀ name ∈ index, IsName name) ∧ (∀ name ∈ relation, IsName name) ∧ '"' ∉ term.toList))

/-! ## The reader -/

/-- Reads a term between quotes. -/
def readTerm? : List Char → Option (String × List Char)
  | '"' :: text => do
    let (term, rest) ← readUpTo? '"' text
    return (String.ofList term, rest)
  | _ => none

/-- Reads an index, a relation and a term. -/
def readIndexed? (text : List Char) : Option (Node × List Char) := do
  let (index, text) ← readUpTo? ' ' text
  let (relation, text) ← readUpTo? ' ' text
  let (term, rest) ← readTerm? text
  return (.searchClause (some (String.ofList index)) (some (String.ofList relation)) term, rest)

/-- Reads the word of an operator, and passes over the space after it. -/
def readOperator? (text : List Char) : Option (Boolean × List Char) := do
  let (word, rest) ← readUpTo? ' ' text
  let value ← Boolean.ofWord? (String.ofList word)
  return (value, rest)

/-- Reads a query. -/
def readNode? (text : List Char) : Option (Node × List Char) :=
  match text with
  | '(' :: inner =>
    match readNode? inner with
    | some (left, ' ' :: middle) =>
      match readOperator? middle with
      | some (value, later) =>
        -- The left operand takes up some text; the test shows that what is left is shorter.
        if later.length < inner.length then
          match readNode? later with
          | some (right, ')' :: rest) => some (.join value left right, rest)
          | _ => none
        else none
      | none => none
    | _ => none
  | '"' :: _ => do
    let (term, rest) ← readTerm? text
    return (.ofTerm term, rest)
  | _ => readIndexed? text
termination_by text.length

/-- Reads the text that shows a query. -/
def readDisplay? (text : String) : Option Node :=
  match readNode? text.toList with
  | some (node, []) => some node
  | _ => none

/-! ## Parts of a query -/

theorem readTerm?_append {term : String} (h : '"' ∉ term.toList) (rest : List Char) :
    readTerm? ('"' :: (term.toList ++ '"' :: rest)) = some (term, rest) := by
  rw [readTerm?, readUpTo?_append h]
  simp

theorem readOperator?_word (value : Boolean) (rest : List Char) :
    readOperator? (value.word.toList ++ ' ' :: rest) = some (value, rest) := by
  have hspace : ' ' ∉ value.word.toList := by
    cases value <;> decide
  rw [readOperator?, readUpTo?_append hspace]
  simp [Boolean.ofWord?_word]

/-- A name with a space after it begins neither with a parenthesis nor with a quote. -/
theorem IsName.exists_cons {name : String} (h : IsName name) (rest : List Char) :
    ∃ c more, name.toList ++ ' ' :: rest = c :: more ∧ c ≠ '(' ∧ c ≠ '"' := by
  cases hchars : name.toList with
  | nil => exact ⟨' ', rest, rfl, by decide, by decide⟩
  | cons c more =>
      have hc : c ∈ name.toList := by
        rw [hchars]
        exact List.mem_cons_self
      refine ⟨c, more ++ ' ' :: rest, rfl, ?_, ?_⟩
      · rintro rfl
        exact h.noOpening hc
      · rintro rfl
        exact h.noQuote hc

theorem IsName.getD {relation : Option String} (h : ∀ name ∈ relation, IsName name) :
    IsName (relation.getD "=") := by
  cases relation with
  | none => exact (by decide : IsName "=")
  | some name => exact h name rfl

theorem readIndexed?_append {index relation term : String} (hindex : IsName index)
    (hrelation : IsName relation) (hterm : '"' ∉ term.toList) (rest : List Char) :
    readIndexed? (index.toList ++ ' ' :: (relation.toList ++
        ' ' :: '"' :: (term.toList ++ '"' :: rest))) =
      some (.searchClause (some index) (some relation) term, rest) := by
  rw [readIndexed?, readUpTo?_append hindex.noSpace]
  simp only [Option.bind_eq_bind, Option.bind_some, readUpTo?_append hrelation.noSpace,
    readTerm?_append hterm, String.ofList_toList]
  rfl

theorem readNode?_cons_of_ne {c : Char} (hparen : c ≠ '(') (hquote : c ≠ '"')
    (more : List Char) : readNode? (c :: more) = readIndexed? (c :: more) := by
  rw [readNode?]
  · intro inner hcons
    exact hparen (List.cons.inj hcons).1
  · intro text hcons
    exact hquote (List.cons.inj hcons).1

theorem readNode?_indexed {index relation term : String} (hindex : IsName index)
    (hrelation : IsName relation) (hterm : '"' ∉ term.toList) (rest : List Char) :
    readNode? (index.toList ++ ' ' :: (relation.toList ++
        ' ' :: '"' :: (term.toList ++ '"' :: rest))) =
      some (.searchClause (some index) (some relation) term, rest) := by
  obtain ⟨c, more, hcons, hparen, hquote⟩ := hindex.exists_cons
    (relation.toList ++ ' ' :: '"' :: (term.toList ++ '"' :: rest))
  rw [hcons, readNode?_cons_of_ne hparen hquote, ← hcons]
  exact readIndexed?_append hindex hrelation hterm rest

/-! ## Queries -/

/-- A legible query is read back from its text as far as the text shows it, whatever follows. -/
theorem readNode?_displayChars {node : Node} (h : node.Legible) (rest : List Char) :
    readNode? (node.displayChars ++ rest) = some (node.shown, rest) := by
  -- The rest is arbitrary, as each operand has the remainder of its triple behind it.
  induction node generalizing rest with
  | triple operator left right ihLeft ihRight =>
      obtain ⟨hleft, hright⟩ := h
      have htext : (Node.triple operator left right).displayChars ++ rest =
          '(' :: (left.displayChars ++ ' ' :: (operator.value.word.toList ++
            ' ' :: (right.displayChars ++ ')' :: rest))) := by
        simp only [Node.displayChars, List.cons_append, List.append_assoc, List.nil_append]
      rw [htext, readNode?, ihLeft hleft]
      simp only [readOperator?_word, ihRight hright]
      rw [if_pos (by simp only [List.length_append, List.length_cons]; omega)]
      rfl
  | searchClause index relation term =>
      obtain ⟨hindex, hrelation, hterm⟩ := h
      cases index with
      | none =>
          have htext : (Node.searchClause none relation term).displayChars ++ rest =
              '"' :: (term.toList ++ '"' :: rest) := by
            simp only [Node.displayChars, scopeChars, List.cons_append, List.append_assoc,
              List.nil_append]
          rw [htext, readNode?, readTerm?_append hterm]
          rfl
      | some index =>
          have htext : (Node.searchClause (some index) relation term).displayChars ++ rest =
              index.toList ++ ' ' :: ((relation.getD "=").toList ++
                ' ' :: '"' :: (term.toList ++ '"' :: rest)) := by
            simp only [Node.displayChars, scopeChars, List.cons_append, List.append_assoc,
              List.nil_append]
          rw [htext]
          exact readNode?_indexed (hindex index rfl) (IsName.getD hrelation) hterm rest

theorem readDisplay?_display {node : Node} (h : node.Legible) :
    readDisplay? node.display = some node.shown := by
  have hread := readNode?_displayChars h []
  rw [List.append_nil] at hread
  rw [readDisplay?, Node.display, String.toList_ofList, hread]

/-- Two legible queries have the same text exactly if the same is shown of them: if they are equal
apart from the modifiers of operators and from relations without an index, where an index without a
relation has the equals sign. What is shown can be read from the text. -/
theorem display_unambiguous {first second : Node} (hfirst : first.Legible)
    (hsecond : second.Legible) :
    (first.display = second.display ↔ first.shown = second.shown) ∧
      readDisplay? first.display = some first.shown := by
  refine ⟨⟨fun htext => ?_, fun hshown => ?_⟩, readDisplay?_display hfirst⟩
  · -- the same text is read as the same query
    have hread := readDisplay?_display hfirst
    rw [htext, readDisplay?_display hsecond] at hread
    exact (Option.some.inj hread).symm
  · -- a text depends on nothing that it does not show
    rw [Node.display, Node.display, ← first.displayChars_shown, ← second.displayChars_shown, hshown]

/-- Two queries with the same text: terms that look like other queries, an empty index, a modifier
on either side, a relation that is left out, and one that has no index. -/
theorem display_unambiguous_nested :
    let title := "a) or (b = (c and d"
    let first : Node := .triple ⟨.and, [⟨"relevant", none, none⟩]⟩
      (.searchClause (some "dc.title") none title)
      (.join .prox (.searchClause none (some "any") ") not (") (.searchClause (some "") none ""))
    let second : Node := .join .and
      (.searchClause (some "dc.title") (some "=") title)
      (.triple ⟨.prox, [⟨"distance", some "<", some "3"⟩]⟩ (.ofTerm ") not (")
        (.searchClause (some "") (some "=") ""))
    first.Legible ∧ second.Legible ∧ first.shown = second.shown ∧ first ≠ second ∧
      first.display = second.display ∧
      first.display =
        "(dc.title = \"a) or (b = (c and d\" and (\") not (\" prox  = \"\"))" ∧
      readDisplay? first.display = some first.shown := by
  intro title first second
  have hfirst : first.Legible := by decide
  have hsecond : second.Legible := by decide
  have hshown : first.shown = second.shown := rfl
  obtain ⟨htext, hread⟩ := display_unambiguous hfirst hsecond
  exact ⟨hfirst, hsecond, hshown, by decide, htext.mpr hshown, by decide, hread⟩

/-- A quote within a term may be taken for its end. Here the text does not say which of two words is
the operator. -/
example :
    (Node.join .and (.ofTerm "a") (.ofTerm "b\" or \"c")).display =
      (Node.join .or (.ofTerm "a\" and \"b") (.ofTerm "c")).display := by
  decide

end CorpusQuery.Cql
