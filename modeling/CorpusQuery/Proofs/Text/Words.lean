/-
  CorpusQuery.Proofs.Text.Words

  Words and lower case. Blanks have no case, end the search for a neighbouring
  letter, and are the lower case form of nothing but themselves, so that a blank
  keeps the texts on its two sides apart. The words of a text in lower case are
  the words of the text, each in lower case by itself.
-/
import CorpusQuery.Text.Case

namespace CorpusQuery.Text

/-! ## Ranges apart -/

/-- No code point lies in a range of both lists. -/
def apart (first second : List (Nat × Nat)) : Bool :=
  first.all fun range => second.all fun other => range.2 < other.1 || other.2 < range.1

theorem inRanges_iff {ranges : List (Nat × Nat)} {c : Char} :
    inRanges ranges c = true ↔ ∃ range ∈ ranges, range.1 ≤ c.toNat ∧ c.toNat ≤ range.2 := by
  simp only [inRanges, List.any_eq_true, Bool.and_eq_true, decide_eq_true_eq]

theorem inRanges_eq_false_of_apart {first second : List (Nat × Nat)} {c : Char}
    (h : apart first second = true) (hc : inRanges first c = true) :
    inRanges second c = false := by
  rw [Bool.eq_false_iff]
  intro hsecond
  obtain ⟨range, hrange, hlow, hhigh⟩ := inRanges_iff.mp hc
  obtain ⟨other, hother, hlow', hhigh'⟩ := inRanges_iff.mp hsecond
  have hall := List.all_eq_true.mp (List.all_eq_true.mp h range hrange) other hother
  simp only [Bool.or_eq_true, decide_eq_true_eq] at hall
  omega

/-! ## Blanks and case -/

variable {c b : Char}

/-- A blank is not passed over in the search for a letter, and is none. -/
theorem not_isCased_of_isBlank (h : isBlank b = true) : isCased b = false :=
  inRanges_eq_false_of_apart (by decide +kernel : apart blankRanges casedRanges = true) h

theorem not_isCaseIgnorable_of_isBlank (h : isBlank b = true) : isCaseIgnorable b = false :=
  inRanges_eq_false_of_apart (by decide +kernel : apart blankRanges caseIgnorableRanges = true) h

theorem ne_of_isBlank (hb : isBlank b = true) (hc : isBlank c = false) : b ≠ c := by
  rintro rfl
  rw [hb] at hc
  cases hc

theorem meetsCased_cons (c : Char) (rest : List Char) :
    meetsCased (c :: rest) = if isCaseIgnorable c then meetsCased rest else isCased c := by
  unfold meetsCased
  rw [List.dropWhile_cons]
  cases isCaseIgnorable c with
  | true => rfl
  | false => rfl

/-- The search for a letter ends at a blank. -/
theorem meetsCased_append_blank (hb : isBlank b = true) (near far : List Char) :
    meetsCased (near ++ b :: far) = meetsCased near := by
  induction near with
  | nil =>
      rw [List.nil_append, meetsCased_cons, not_isCaseIgnorable_of_isBlank hb]
      exact not_isCased_of_isBlank hb
  | cons c near ih => rw [List.cons_append, meetsCased_cons, meetsCased_cons, ih]

/-! ## The mapping of characters -/

theorem CaseRun.covers_iff {run : CaseRun} {code : Nat} :
    run.covers code = true ↔
      run.first ≤ code ∧ code ≤ run.last ∧ (code - run.first) % run.step = 0 := by
  simp only [CaseRun.covers, Bool.and_eq_true, decide_eq_true_eq, beq_iff_eq, and_assoc]

/-- A code point is mapped by a run that covers it, or stays as it is. -/
theorem shiftBy_cases (runs : List CaseRun) (code : Nat) :
    shiftBy runs code = code ∨ ∃ run ∈ runs, run.covers code = true ∧
      shiftBy runs code = (code + run.offset).toNat := by
  unfold shiftBy
  cases hfind : runs.find? fun run => run.covers code with
  | none => exact Or.inl rfl
  | some run =>
      have hcovers := List.find?_some hfind
      exact Or.inr ⟨run, List.mem_of_find?_eq_some hfind, hcovers, rfl⟩

/-- The ranges of code points that runs map. -/
def sources (runs : List CaseRun) : List (Nat × Nat) :=
  runs.map fun run => (run.first, run.last)

/-- The ranges of code points that runs map to. -/
def targets (runs : List CaseRun) : List (Nat × Nat) :=
  runs.map fun run => ((run.first + run.offset).toNat, (run.last + run.offset).toNat)

/-- The character of a code point has this code point, or is the null character. -/
theorem toNat_ofNat_cases (code : Nat) :
    (Char.ofNat code).toNat = code ∨ Char.ofNat code = '\x00' := by
  by_cases hvalid : code.isValidChar
  · have hchar : Char.ofNat code = Char.ofNatAux code hvalid := dif_pos hvalid
    rw [hchar]
    exact Or.inl rfl
  · exact Or.inr (dif_neg hvalid)

/-- The runs of characters that are something else in lower case: those of the table, and the dotted
capital, which alone has two characters in lower case. -/
def loweredRuns : List CaseRun :=
  ⟨0x130, 0x130, 1, 0⟩ :: lowerRuns

/-- The code points of lower case forms of such characters, with the two forms of the sigma. The
null character stands for the code points that are none. -/
def lowerFormRanges : List (Nat × Nat) :=
  (0x00, 0x00) :: (0x69, 0x69) :: (0x307, 0x307) :: (0x3C2, 0x3C3) :: targets lowerRuns

/-- A character that no run covers stays as it is. -/
theorem lowerChar_of_not_covered (h : ∀ run ∈ loweredRuns, run.covers c.toNat = false) :
    lowerChar c = [c] := by
  have hdotted : c ≠ '\u0130' := by
    rintro rfl
    exact absurd (h _ List.mem_cons_self) (by decide)
  rw [lowerChar, if_neg hdotted]
  rcases shiftBy_cases lowerRuns c.toNat with hsame | ⟨run, hrun, hcovers, -⟩
  · rw [hsame, Char.ofNat_toNat]
  · rw [h run (List.mem_cons_of_mem _ hrun)] at hcovers
    cases hcovers

variable {ranges : List (Nat × Nat)}

/-- A character apart from those that lower case changes stays as it is. -/
theorem lowerChar_of_apart (hapart : apart ranges (sources loweredRuns) = true)
    (hc : inRanges ranges c = true) : lowerChar c = [c] := by
  have hnone : inRanges (sources loweredRuns) c = false := inRanges_eq_false_of_apart hapart hc
  apply lowerChar_of_not_covered
  intro run hrun
  rw [Bool.eq_false_iff]
  intro hcovers
  -- A run that covers the character would put it into the ranges.
  obtain ⟨hfirst, hlast, -⟩ := CaseRun.covers_iff.mp hcovers
  have hsource : inRanges (sources loweredRuns) c = true :=
    inRanges_iff.mpr ⟨_, List.mem_map_of_mem hrun, hfirst, hlast⟩
  rw [hnone] at hsource
  cases hsource

/-- And no other character has a character of the ranges in its lower case form, if these are apart
from all such forms. -/
theorem not_inRanges_of_mem_lowerChar (hapart : apart lowerFormRanges ranges = true)
    (hc : inRanges ranges c = false) {d : Char} (hd : d ∈ lowerChar c) :
    inRanges ranges d = false := by
  have hform : inRanges lowerFormRanges d = true → inRanges ranges d = false :=
    inRanges_eq_false_of_apart hapart
  unfold lowerChar at hd
  split at hd
  · -- the dotted capital
    simp only [List.mem_cons, List.not_mem_nil, or_false] at hd
    apply hform
    obtain rfl | rfl := hd
    · decide
    · decide
  · rw [List.mem_singleton] at hd
    rcases shiftBy_cases lowerRuns c.toNat with hsame | ⟨run, hrun, hcovers, hshift⟩
    · rw [hd, hsame, Char.ofNat_toNat]
      exact hc
    · apply hform
      rcases toNat_ofNat_cases (shiftBy lowerRuns c.toNat) with hcode | hnull
      · -- The image lies between the images of the ends of the run.
        obtain ⟨hfirst, hlast, -⟩ := CaseRun.covers_iff.mp hcovers
        have htarget : ((run.first + run.offset).toNat, (run.last + run.offset).toNat) ∈
            lowerFormRanges := by
          simp only [lowerFormRanges, List.mem_cons]
          exact .inr (.inr (.inr (.inr (List.mem_map_of_mem hrun))))
        refine inRanges_iff.mpr ⟨_, htarget, ?_⟩
        rw [hd, hcode, hshift]
        dsimp only
        omega
      · rw [hd, hnull]
        decide

theorem apart_blankRanges_loweredRuns : apart blankRanges (sources loweredRuns) = true := by
  decide +kernel

/-- A blank stays as it is in lower case. -/
theorem lowerChar_of_isBlank (hb : isBlank b = true) : lowerChar b = [b] :=
  lowerChar_of_apart apart_blankRanges_loweredRuns hb

theorem lowerChar_ne_nil (c : Char) : lowerChar c ≠ [] := by
  unfold lowerChar
  split
  · exact nofun
  · exact nofun

/-! ## Characters in their texts -/

/-- The lower case form of a character between two texts, the nearest character of the first one
first. -/
def lowerForm (before : List Char) (c : Char) (after : List Char) : List Char :=
  if c = 'Σ' then [lowerSigma before after] else lowerChar c

theorem lowerAfter_cons (before : List Char) (c : Char) (rest : List Char) :
    lowerAfter before (c :: rest) = lowerForm before c rest ++ lowerAfter (c :: before) rest := rfl

theorem lowerForm_ne_nil (before : List Char) (c : Char) (after : List Char) :
    lowerForm before c after ≠ [] := by
  unfold lowerForm
  split
  · exact nofun
  · exact lowerChar_ne_nil c

theorem lowerSigma_cases (before after : List Char) :
    lowerSigma before after = 'ς' ∨ lowerSigma before after = 'σ' := by
  unfold lowerSigma
  split
  · exact Or.inl rfl
  · exact Or.inr rfl

/-- What is in the lower case form of a text is in the form of one of its characters. -/
theorem mem_lowerAfter {before text : List Char} {d : Char} (hd : d ∈ lowerAfter before text) :
    ∃ near, ∃ c ∈ text, ∃ far, d ∈ lowerForm near c far := by
  induction text generalizing before with
  | nil => cases hd
  | cons c rest ih =>
      rw [lowerAfter_cons, List.mem_append] at hd
      rcases hd with hd | hd
      · exact ⟨before, c, List.mem_cons_self, rest, hd⟩
      · obtain ⟨near, other, hother, far, hform⟩ := ih hd
        exact ⟨near, other, List.mem_cons_of_mem c hother, far, hform⟩

/-- Lower case neither adds nor removes characters of the kind. -/
def KeptByLower (kind : Char → Bool) : Prop :=
  ∀ before c after, ∀ d ∈ lowerForm before c after, kind d = kind c

/-- Ranges apart from everything that lower case changes are a kind that it keeps. -/
theorem keptByLower_of_apart (hsources : apart ranges (sources loweredRuns) = true)
    (hforms : apart lowerFormRanges ranges = true) : KeptByLower (inRanges ranges) := by
  intro before c after d hd
  unfold lowerForm at hd
  split at hd
  case isTrue hsigma =>
    -- Neither the capital sigma nor one of its two forms is in the ranges.
    have hcapital : inRanges ranges c = false := by
      rw [Bool.eq_false_iff]
      intro hc
      have hsame := lowerChar_of_apart hsources hc
      rw [hsigma] at hsame
      exact absurd hsame (by decide +kernel)
    rw [List.mem_singleton] at hd
    rw [hcapital, hd]
    apply inRanges_eq_false_of_apart hforms
    rcases lowerSigma_cases before after with hform | hform
    · rw [hform]
      decide
    · rw [hform]
      decide
  case isFalse =>
    cases hc : inRanges ranges c with
    | true =>
        rw [lowerChar_of_apart hsources hc, List.mem_singleton] at hd
        rw [hd, hc]
    | false => exact not_inRanges_of_mem_lowerChar hforms hc hd

theorem keptByLower_isBlank : KeptByLower isBlank :=
  keptByLower_of_apart apart_blankRanges_loweredRuns (by decide +kernel)

/-! ## Lower case on the two sides of a blank -/

/-- The text has no blank in it. -/
def Unbroken (text : List Char) : Prop :=
  ∀ c ∈ text, isBlank c = false

instance (text : List Char) : Decidable (Unbroken text) :=
  List.decidableBAll (fun c => isBlank c = false) text

theorem Unbroken.append {front rest : List Char} (hfront : Unbroken front)
    (hrest : Unbroken rest) : Unbroken (front ++ rest) :=
  List.forall_mem_append.mpr ⟨hfront, hrest⟩

/-- What stands before a blank has no effect on what comes after it. -/
theorem lowerAfter_append_blank (hb : isBlank b = true) (near far text : List Char) :
    lowerAfter (near ++ b :: far) text = lowerAfter near text := by
  induction text generalizing near with
  | nil => rfl
  | cons c rest ih =>
      have hsigma : lowerSigma (near ++ b :: far) rest = lowerSigma near rest := by
        rw [lowerSigma, lowerSigma, meetsCased_append_blank hb]
      rw [lowerAfter, lowerAfter, hsigma]
      exact congrArg (_ ++ ·) (ih (c :: near))

/-- Nor has what comes after it any effect on what stands before it. -/
theorem lowerAfter_of_append_blank (hb : isBlank b = true) (before front rest : List Char) :
    lowerAfter before (front ++ b :: rest) = lowerAfter before front ++ b :: lower rest := by
  induction front generalizing before with
  | nil =>
      have hsigma : b ≠ 'Σ' := ne_of_isBlank hb (by decide)
      show (if b = 'Σ' then _ else _) ++ lowerAfter (b :: before) rest = b :: lower rest
      rw [if_neg hsigma, lowerChar_of_isBlank hb]
      exact congrArg (b :: ·) (lowerAfter_append_blank hb [] before rest)
  | cons c front ih =>
      have hsigma : lowerSigma before (front ++ b :: rest) = lowerSigma before front := by
        rw [lowerSigma, lowerSigma, meetsCased_append_blank hb]
      rw [List.cons_append, lowerAfter, lowerAfter, hsigma, ih, List.append_assoc]

/-- The lower case of two texts around a blank. -/
theorem lower_append_blank (hb : isBlank b = true) (front rest : List Char) :
    lower (front ++ b :: rest) = lower front ++ b :: lower rest :=
  lowerAfter_of_append_blank hb [] front rest

/-- A text without blanks has none in lower case. -/
theorem Unbroken.lowerAfter {text : List Char} (h : Unbroken text) (before : List Char) :
    Unbroken (lowerAfter before text) := by
  intro d hd
  obtain ⟨near, c, hc, far, hform⟩ := mem_lowerAfter hd
  rw [keptByLower_isBlank near c far d hform]
  exact h c hc

theorem Unbroken.lower {text : List Char} (h : Unbroken text) : Unbroken (lower text) :=
  h.lowerAfter []

theorem lower_eq_nil_iff {text : List Char} : lower text = [] ↔ text = [] := by
  constructor
  · intro h
    cases text with
    | nil => rfl
    | cons c rest =>
        rw [lower, lowerAfter, List.append_eq_nil_iff] at h
        split at h
        · cases h.1
        · exact absurd h.1 (lowerChar_ne_nil c)
  · rintro rfl
    rfl

/-! ## Pieces and words -/

theorem mem_of_mem_trimWhere {drop : Char → Bool} {text : List Char} {c : Char}
    (h : c ∈ trimWhere drop text) : c ∈ text := by
  rw [trimWhere, List.mem_reverse] at h
  have hfront := (List.dropWhile_sublist drop).mem h
  rw [List.mem_reverse] at hfront
  exact (List.dropWhile_sublist drop).mem hfront

theorem pieces_ne_nil (text : List Char) : pieces text ≠ [] := by
  cases text with
  | nil => exact nofun
  | cons c rest =>
      unfold pieces
      split
      · exact nofun
      · split <;> exact nofun

/-- A blank ends one piece and begins another. -/
theorem pieces_append_blank (hb : isBlank b = true) (front rest : List Char) :
    pieces (front ++ b :: rest) = pieces front ++ pieces rest := by
  induction front with
  | nil =>
      show (if isBlank b then _ else _) = _
      rw [if_pos hb]
      rfl
  | cons c front ih =>
      obtain ⟨piece, later, hpieces⟩ := List.exists_cons_of_ne_nil (pieces_ne_nil front)
      rw [List.cons_append, pieces, pieces, ih, hpieces]
      split
      · rfl
      · rfl

/-- A text without blanks is one piece. -/
theorem pieces_eq_singleton {text : List Char} (h : Unbroken text) : pieces text = [text] := by
  induction text with
  | nil => rfl
  | cons c rest ih =>
      obtain ⟨hc, hrest⟩ := List.forall_mem_cons.mp h
      rw [pieces, hc, ih hrest]
      rfl

/-- A text is one piece, or a piece, a blank and a text. -/
theorem blank_induction {motive : List Char → Prop}
    (piece : ∀ text, Unbroken text → motive text)
    (blank : ∀ front b rest, Unbroken front → isBlank b = true → motive rest →
      motive (front ++ b :: rest)) (text : List Char) : motive text := by
  have hfront : Unbroken (text.takeWhile fun c => !isBlank c) := by
    intro c hc
    have hall := List.all_eq_true.mp (List.all_takeWhile (p := fun c => !isBlank c)) c hc
    simpa using hall
  have hsplit := List.takeWhile_append_dropWhile (p := fun c => !isBlank c) (l := text)
  cases hrest : text.dropWhile fun c => !isBlank c with
  | nil =>
      rw [hrest, List.append_nil] at hsplit
      rw [hsplit] at hfront
      exact piece text hfront
  | cons b rest =>
      have hb : isBlank b = true := by
        have hhead := List.head?_dropWhile_not (fun c => !isBlank c) text
        rw [hrest] at hhead
        simpa using hhead
      have hlt : rest.length < text.length := by
        rw [← hsplit, hrest, List.length_append, List.length_cons]
        omega
      rw [← hsplit, hrest]
      exact blank _ b rest hfront hb (blank_induction piece blank rest)
termination_by text.length

/-- The words of two texts around a blank. -/
theorem words_append_blank (hb : isBlank b = true) (front rest : List Char) :
    words (front ++ b :: rest) = words front ++ words rest := by
  rw [words, pieces_append_blank hb, List.filter_append]
  rfl

/-- Words have no blanks in them. -/
theorem unbroken_of_mem_pieces {text piece : List Char} (h : piece ∈ pieces text) :
    Unbroken piece := by
  induction text using blank_induction with
  | piece text hfree =>
      rw [pieces_eq_singleton hfree, List.mem_singleton] at h
      rw [h]
      exact hfree
  | blank front b rest hfree hb ih =>
      rw [pieces_append_blank hb, pieces_eq_singleton hfree, List.mem_append,
        List.mem_singleton] at h
      rcases h with rfl | h
      · exact hfree
      · exact ih h

theorem unbroken_of_mem_words {text word : List Char} (h : word ∈ words text) : Unbroken word :=
  unbroken_of_mem_pieces (List.mem_filter.mp h).1

theorem pieces_lower (text : List Char) : pieces (lower text) = (pieces text).map lower := by
  induction text using blank_induction with
  | piece text hfree =>
      rw [pieces_eq_singleton hfree]
      exact pieces_eq_singleton hfree.lower
  | blank front b rest hfree hb ih =>
      rw [lower_append_blank hb, pieces_append_blank hb, pieces_append_blank hb, ih,
        pieces_eq_singleton hfree, pieces_eq_singleton hfree.lower,
        List.map_append]
      rfl

/-- The words of a text in lower case are its words, each in lower case by itself. -/
theorem words_lower (text : List Char) : words (lower text) = (words text).map lower := by
  -- Lower case leaves no piece empty that was not.
  have hempty : ((fun piece : List Char => !piece.isEmpty) ∘ lower) =
      fun piece => !piece.isEmpty := by
    funext piece
    show (!(lower piece).isEmpty) = !piece.isEmpty
    rw [Bool.eq_iff_iff]
    simp only [Bool.not_eq_true', List.isEmpty_eq_false_iff, ne_eq, lower_eq_nil_iff]
  rw [words, words, pieces_lower, List.filter_map, hempty]

end CorpusQuery.Text
