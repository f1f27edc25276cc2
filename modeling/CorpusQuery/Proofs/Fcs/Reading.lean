/-
  CorpusQuery.Proofs.Fcs.Reading

  Corpus queries made from FCS-QL queries can be read back: a reader recovers
  the entries that a query denotes from its text. The reader goes from left to
  right. A regular expression ends at the first single quote, whatever else it
  holds, and every other part of the text is told by its first characters.
-/
import CorpusQuery.Proofs.Fcs.Denotation
import CorpusQuery.Proofs.Text.Stops

namespace CorpusQuery.Fcs

/-! ## The reader -/

/-- How a constraint on an attribute begins, up to the quote before its value. -/
def lead : Cqp.Attribute → Operator → String
  | .word, .equals => "word = '"
  | .word, .notEquals => "word != '"
  | .baseForm, .equals => "lemma contains '"
  | .baseForm, .notEquals => "lemma not contains '"
  | .pos, .equals => "pos = '"
  | .pos, .notEquals => "pos != '"

/-- The attributes with the operators they are compared by. -/
def leads : List (Cqp.Attribute × Operator) :=
  [(.word, .equals), (.word, .notEquals), (.baseForm, .equals), (.baseForm, .notEquals),
   (.pos, .equals), (.pos, .notEquals)]

/-- Reads the beginning of a constraint. -/
def readLead? (text : List Char) : Option ((Cqp.Attribute × Operator) × List Char) :=
  leads.findSome? fun key =>
    ((lead key.1 key.2).toList.isPrefixOf? text).map fun rest => (key, rest)

/-- Reads up to the next single quote, and passes over it. -/
def readQuoted? (text : List Char) : Option (List Char × List Char) :=
  match text.dropWhile (· ≠ '\'') with
  | _ :: rest => some (text.takeWhile (· ≠ '\''), rest)
  | [] => none

/-- Reads a letter that may be missing. -/
def readLetter (letter : Char) : List Char → Bool × List Char
  | c :: rest => if c = letter then (true, rest) else (false, c :: rest)
  | [] => (false, [])

/-- Reads the flags after a value; without a percent sign there are none. -/
def readFlags : List Char → FlagSet × List Char
  | ' ' :: '%' :: text =>
    let (ignoreCase, text) := readLetter 'c' text
    let (literal, text) := readLetter 'l' text
    let (ignoreDiacritics, text) := readLetter 'd' text
    (⟨ignoreCase, false, literal, ignoreDiacritics⟩, text)
  | text => (.empty, text)

/-- The universal tag whose candidates are written like this. -/
def tagOfAlternatives? (value : String) : Option UdTag :=
  UdTag.all.find? fun tag => Cqp.alternatives (tag.candidates.map SucTag.name) = value

/-- Reads a constraint. -/
def readTerm? (text : List Char) : Option (Term × List Char) := do
  let ((layer, operator), text) ← readLead? text
  let (value, text) ← readQuoted? text
  if layer = .pos then
    let tag ← tagOfAlternatives? (String.ofList value)
    return (⟨.pos, operator, tag.name, .empty⟩, text)
  else
    let (flags, text) := readFlags text
    return (⟨layer, operator, String.ofList value, flags⟩, text)

/-- Reads the bounds after a bracket: a blank stands for exactly one token. -/
def readTimes? : List Char → Option ((UInt32 × UInt32) × List Char)
  | ' ' :: rest => some ((1, 1), rest)
  | '{' :: text =>
    let (least, text) := Decimal.spanDigits text
    let minOccurs := UInt32.ofNat (Decimal.digitsValue least)
    match text with
    | '}' :: ' ' :: rest => some ((minOccurs, minOccurs), rest)
    | ',' :: text =>
      let (most, text) := Decimal.spanDigits text
      match text with
      | '}' :: ' ' :: rest => some ((minOccurs, UInt32.ofNat (Decimal.digitsValue most)), rest)
      | _ => none
    | _ => none
  | _ => none

/-- Reads the second constraint of a token pattern, up to the bracket. -/
def readLast? (text : List Char) : Option (Term × List Char) := do
  match ← readTerm? text with
  | (right, ']' :: rest) => some (right, rest)
  | _ => none

/-- Reads a token pattern. -/
def readEntry? : List Char → Option (Entry × List Char)
  | ' ' :: '[' :: ']' :: text => do
    let ((minOccurs, maxOccurs), rest) ← readTimes? text
    return (.any minOccurs maxOccurs, rest)
  | '[' :: text => do
    match ← readTerm? text with
    | (term, ']' :: text) =>
      let ((minOccurs, maxOccurs), rest) ← readTimes? text
      return (.single term minOccurs maxOccurs, rest)
    | (left, ' ' :: '&' :: ' ' :: text) =>
      let (right, rest) ← readLast? text
      return (.both left right, rest)
    | (left, ' ' :: '|' :: ' ' :: text) =>
      let (right, rest) ← readLast? text
      return (.either left right, rest)
    | _ => none
  | _ => none

/-- Reads token patterns to the end of the text. -/
def readChars? (text : List Char) : Option (List Entry) :=
  match text with
  | [] => some []
  | c :: more =>
    match readEntry? (c :: more) with
    | some (entry, rest) =>
      -- Every pattern takes up some text; the test shows that the rest is shorter.
      if rest.length < (c :: more).length then (readChars? rest).map (entry :: ·) else none
    | none => none
termination_by text.length
decreasing_by assumption

/-- Reads a corpus query. -/
def readCqp? (text : String) : Option (List Entry) :=
  readChars? text.toList

/-! ## Parts of a token pattern -/

theorem readLead?_lead (layer : Cqp.Attribute) (operator : Operator) (rest : List Char) :
    readLead? ((lead layer operator).toList ++ rest) = some ((layer, operator), rest) := by
  cases layer <;> cases operator <;> rfl

theorem readQuoted?_append {value : List Char} (h : '\'' ∉ value) (rest : List Char) :
    readQuoted? (value ++ '\'' :: rest) = some (value, rest) := by
  rw [readQuoted?, Text.dropWhile_append_stop h, Text.takeWhile_append_stop h]

/-- What follows a constraint: a bracket, or a blank and a sign between two constraints. -/
def EndsTerm (rest : List Char) : Prop :=
  (∃ more, rest = ']' :: more) ∨ ∃ sign more, rest = ' ' :: sign :: more ∧ sign ≠ '%'

theorem readFlags_suffix {flags : FlagSet} (hflags : flags.caseSensitive = false)
    {rest : List Char} (hrest : EndsTerm rest) :
    readFlags (flags.toCqp.suffix ++ rest) = (flags, rest) := by
  obtain ⟨ignoreCase, caseSensitive, literal, ignoreDiacritics⟩ := flags
  cases hflags
  rcases hrest with ⟨more, rfl⟩ | ⟨sign, more, rfl, hsign⟩
  -- Without a suffix the reader must not take what follows for flags.
  · cases ignoreCase <;> cases literal <;> cases ignoreDiacritics <;>
      simp [FlagSet.toCqp, FlagSet.empty, Cqp.Flags.suffix, Cqp.Flags.letters, readFlags,
        readLetter]
  · cases ignoreCase <;> cases literal <;> cases ignoreDiacritics <;>
      simp [FlagSet.toCqp, FlagSet.empty, Cqp.Flags.suffix, Cqp.Flags.letters, readFlags,
        readLetter, hsign]

/-- No two universal tags have the same candidates. -/
theorem tagOfAlternatives?_candidates (tag : UdTag) :
    tagOfAlternatives? (Cqp.alternatives (tag.candidates.map SucTag.name)) = some tag := by
  cases tag <;> decide

theorem quote_not_mem_candidates (tag : UdTag) :
    '\'' ∉ (Cqp.alternatives (tag.candidates.map SucTag.name)).toList := by
  cases tag <;> decide

theorem readTimes?_chars (minOccurs maxOccurs : UInt32) (rest : List Char) :
    readTimes? (Cqp.Repetition.chars ⟨minOccurs, maxOccurs⟩ ++ rest)
      = some ((minOccurs, maxOccurs), rest) := by
  have hclose : ('}' : Char).isDigit = false := by decide
  have hcomma : (',' : Char).isDigit = false := by decide
  unfold Cqp.Repetition.chars
  split
  · rename_i hone
    simp only [Bool.and_eq_true, decide_eq_true_eq] at hone
    obtain ⟨rfl, rfl⟩ := hone
    rfl
  · split
    -- One number where the bounds agree, else two with a comma between them.
    · rename_i heq
      cases heq
      simp only [List.cons_append, List.append_assoc, List.nil_append, readTimes?,
        Decimal.spanDigits_toDigits _ hclose, Decimal.digitsValue_toDigits, UInt32.ofNat_toNat]
    · simp only [List.cons_append, List.append_assoc, List.nil_append, readTimes?,
        Decimal.spanDigits_toDigits _ hcomma, Decimal.spanDigits_toDigits _ hclose,
        Decimal.digitsValue_toDigits, UInt32.ofNat_toNat]

/-! ## Constraints -/

/-- The value of a term as it is written between quotes. -/
def Term.shown (term : Term) : String :=
  match term.layer with
  | .pos =>
    Cqp.alternatives (((UdTag.ofName? term.value).elim [] UdTag.candidates).map SucTag.name)
  | _ => term.value

theorem Term.chars_constraint {term : Term} (h : term.Legible) :
    term.constraint.chars = (lead term.layer term.operator).toList ++
      (term.shown.toList ++ '\'' :: term.flags.toCqp.suffix) := by
  obtain ⟨layer, operator, value, flags⟩ := term
  cases layer with
  | word =>
      cases operator <;> simp [Term.constraint, Cqp.Constraint.chars_word, Cqp.quoted,
        Cqp.comparison, Operator.negates, Term.shown, lead]
  | baseForm =>
      cases operator <;> simp [Term.constraint, Cqp.Constraint.chars_baseForm, Cqp.quoted,
        Cqp.containment, Operator.negates, Term.shown, lead]
  | pos =>
      -- A part of speech is written without flags, and a legible one has none.
      have hflags : flags = .empty := h.2
      have hsuffix : flags.toCqp.suffix = [] := by rw [hflags]; rfl
      cases operator <;> simp [Term.constraint, Cqp.Constraint.chars_pos, Cqp.quoted,
        Cqp.comparison, Operator.negates, Term.shown, lead, hsuffix]

theorem Term.quote_not_mem_shown {term : Term} (h : term.Legible) :
    '\'' ∉ term.shown.toList := by
  obtain ⟨layer, operator, value, flags⟩ := term
  cases layer with
  | word => exact h.1
  | baseForm => exact h.1
  | pos =>
      obtain ⟨⟨tag, rfl⟩, -⟩ := h
      rw [Term.shown, UdTag.ofName?_name]
      exact quote_not_mem_candidates tag

/-- A legible constraint is read back from its text, whatever follows it. -/
theorem readTerm?_chars {term : Term} (h : term.Legible) {rest : List Char}
    (hrest : EndsTerm rest) : readTerm? (term.constraint.chars ++ rest) = some (term, rest) := by
  have hlead := readLead?_lead term.layer term.operator
    (term.shown.toList ++ '\'' :: (term.flags.toCqp.suffix ++ rest))
  have hquoted := readQuoted?_append (Term.quote_not_mem_shown h)
    (term.flags.toCqp.suffix ++ rest)
  rw [Term.chars_constraint h]
  simp only [List.append_assoc, List.cons_append]
  unfold readTerm?
  rw [hlead]
  simp only [Option.bind_eq_bind, Option.bind_some, hquoted, String.ofList_toList]
  obtain ⟨layer, operator, value, flags⟩ := term
  cases layer with
  | word =>
      simp only [reduceCtorEq, if_false, readFlags_suffix h.2 hrest]
      rfl
  | baseForm =>
      simp only [reduceCtorEq, if_false, readFlags_suffix h.2 hrest]
      rfl
  | pos =>
      -- The alternatives are those of one tag only.
      obtain ⟨⟨tag, rfl⟩, hflags⟩ := h
      cases hflags
      simp only [if_true, Term.shown, UdTag.ofName?_name, Option.elim_some,
        tagOfAlternatives?_candidates, Option.bind_some]
      rfl

/-! ## Token patterns -/

theorem endsTerm_bracket (rest : List Char) : EndsTerm (']' :: rest) :=
  Or.inl ⟨rest, rfl⟩

theorem readLast?_chars {term : Term} (h : term.Legible) (rest : List Char) :
    readLast? (term.constraint.chars ++ ']' :: rest) = some (term, rest) := by
  unfold readLast?
  rw [readTerm?_chars h (endsTerm_bracket rest)]
  rfl

/-- A legible token pattern is read back from its text, whatever follows it. -/
theorem readEntry?_chars {entry : Entry} (h : entry.Legible) (rest : List Char) :
    readEntry? (entry.token.chars ++ rest) = some (entry, rest) := by
  cases entry with
  | any minOccurs maxOccurs =>
      simp only [Entry.token, Cqp.Token.chars, List.cons_append, readEntry?,
        readTimes?_chars, Option.bind_eq_bind, Option.bind_some]
      rfl
  | single term minOccurs maxOccurs =>
      have hterm := readTerm?_chars h
        (endsTerm_bracket (Cqp.Repetition.chars ⟨minOccurs, maxOccurs⟩ ++ rest))
      simp only [Entry.token, Cqp.Token.chars, List.cons_append, List.append_assoc, readEntry?,
        hterm, readTimes?_chars, Option.bind_eq_bind, Option.bind_some]
      rfl
  | both left right =>
      have hends : EndsTerm (" & ".toList ++ (right.constraint.chars ++ ']' :: rest)) :=
        Or.inr ⟨'&', _, rfl, by decide⟩
      have hleft := readTerm?_chars h.1 hends
      have hright := readLast?_chars h.2 rest
      simp only [Entry.token, Cqp.Token.chars, List.cons_append, List.append_assoc,
        List.nil_append, readEntry?, hleft, Option.bind_eq_bind, Option.bind_some]
      simp only [hright, Option.bind_some, String.reduceToList, List.cons_append, List.nil_append]
      rfl
  | either left right =>
      have hends : EndsTerm (" | ".toList ++ (right.constraint.chars ++ ']' :: rest)) :=
        Or.inr ⟨'|', _, rfl, by decide⟩
      have hleft := readTerm?_chars h.1 hends
      have hright := readLast?_chars h.2 rest
      simp only [Entry.token, Cqp.Token.chars, List.cons_append, List.append_assoc,
        List.nil_append, readEntry?, hleft, Option.bind_eq_bind, Option.bind_some]
      simp only [hright, Option.bind_some, String.reduceToList, List.cons_append, List.nil_append]
      rfl

theorem Entry.chars_ne_nil (entry : Entry) : entry.token.chars ≠ [] := by
  cases entry <;> simp [Entry.token, Cqp.Token.chars]

/-- Reading is the inverse of writing token patterns one after the other. -/
theorem readChars?_flatMap {entries : List Entry} (h : ∀ entry ∈ entries, entry.Legible) :
    readChars? ((entries.map Entry.token).flatMap Cqp.Token.chars) = some entries := by
  induction entries with
  | nil =>
      unfold readChars?
      rfl
  | cons entry rest ih =>
      obtain ⟨hentry, hrest⟩ := List.forall_mem_cons.mp h
      -- The first pattern is read off with all later ones as the rest.
      have hread := readEntry?_chars hentry ((rest.map Entry.token).flatMap Cqp.Token.chars)
      rw [List.map_cons, List.flatMap_cons]
      obtain ⟨c, more, hchars⟩ := List.exists_cons_of_ne_nil (Entry.chars_ne_nil entry)
      rw [hchars, List.cons_append] at hread ⊢
      unfold readChars?
      simp only [hread]
      rw [if_pos (by simp only [List.length_cons, List.length_append]; omega), ih hrest]
      rfl

/-! ## Queries -/

/-- The reader recovers what an accepted query denotes from the text of its corpus query. -/
theorem readCqp?_of_ok {node : Node} {text : String} (h : node.toCqp.outcome = .ok text)
    (hquote : node.QuoteFree) : ∃ entries, node.entries? = some entries ∧
      readCqp? text = some entries := by
  obtain ⟨entries, hentries, htext, hlegible⟩ := Node.entries_of_ok h
  refine ⟨entries, hentries, ?_⟩
  rw [htext, readCqp?, Cqp.render, String.toList_ofList]
  exact readChars?_flatMap (hlegible hquote)

/-- Two accepted queries without quotes in their words and lemmas have the same corpus query exactly
if they denote the same entries, and these can be read off the corpus query. -/
theorem toCqp_unambiguous {first second : Node} {firstText secondText : String}
    (hfirst : first.toCqp.outcome = .ok firstText) (hsecond : second.toCqp.outcome = .ok secondText)
    (hfirstQuote : first.QuoteFree) (hsecondQuote : second.QuoteFree) :
    (firstText = secondText ↔ first.entries? = second.entries?) ∧
      ∃ entries, first.entries? = some entries ∧ readCqp? firstText = some entries := by
  obtain ⟨entries, hentries, hread⟩ := readCqp?_of_ok hfirst hfirstQuote
  obtain ⟨others, hothers, hreadOther⟩ := readCqp?_of_ok hsecond hsecondQuote
  refine ⟨⟨fun heq => ?_, fun heq => ?_⟩, ⟨entries, hentries, hread⟩⟩
  · -- the same text is read as the same entries
    rw [hentries, hothers, ← hread, ← hreadOther, heq]
  · -- the same entries are written as the same text
    obtain ⟨made, hmade, htext, -⟩ := Node.entries_of_ok hfirst
    obtain ⟨other, hother, htextOther, -⟩ := Node.entries_of_ok hsecond
    rw [hmade, hother, Option.some.injEq] at heq
    rw [htext, htextOther, heq]

/-- Two spellings of one query, with brackets, signs and flags inside a regular expression and a
child that is passed over. -/
theorem toCqp_unambiguous_spellings :
    let regex := "] & [|{1,2} %c"
    let first : Node := .sequence [
      .segment ⟨.simple ((SimpleExpression.of "word" .equals regex).withFlags [.literalMatching]),
        2, 3⟩,
      .segment ⟨.or [.simple (.of "lemma" .notEquals "hus"), .simple (.of "pos" .equals "verb")],
        1, 1⟩,
      .segment ⟨.wildcard, 0, 0⟩]
    let second : Node := .sequence [
      .segment ⟨.simple ((SimpleExpression.of "token" .equals regex).withFlags
        [.caseSensitive, .literalMatching]), 2, 3⟩,
      .disjunction [],
      .segment ⟨.or [.simple (.of "lemma" .notEquals "hus"), .simple (.of "pos" .equals "VERB")],
        4, 5⟩,
      .segment ⟨.wildcard, 0, 0⟩]
    let text := "[word = '] & [|{1,2} %c' %l]{2,3} " ++
      "[lemma not contains 'hus' | pos = '(VB|PC)'] []{0} "
    first.toCqp.outcome = .ok text ∧ second.toCqp.outcome = .ok text ∧
      first.QuoteFree ∧ second.QuoteFree ∧ first.entries? = second.entries? ∧
      ∃ entries, first.entries? = some entries ∧ readCqp? text = some entries := by
  intro regex first second text
  have hfirst : first.toCqp.outcome = .ok text := by decide +kernel
  have hsecond : second.toCqp.outcome = .ok text := by decide +kernel
  have hfirstQuote : first.QuoteFree := by decide
  have hsecondQuote : second.QuoteFree := by decide
  have hunambiguous := toCqp_unambiguous hfirst hsecond hfirstQuote hsecondQuote
  exact ⟨hfirst, hsecond, hfirstQuote, hsecondQuote, hunambiguous.1.mp rfl, hunambiguous.2⟩

end CorpusQuery.Fcs
