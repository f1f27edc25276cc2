/-
  CorpusQuery.Proofs.Text.Lowered

  Lower case and trimming as normal forms. No character of a lower case form has
  another lower case form, so that a text in lower case stays as it is; and a
  trimmed text has nothing left to trim. Both keep words apart from one another,
  so that words joined by blanks are found again.
-/
import CorpusQuery.Proofs.Text.Words
import Mathlib.Data.List.DropRight

namespace CorpusQuery.Text

/-! ## Images of runs -/

/-- The code points that a run maps to, as a run that maps them to themselves. -/
def CaseRun.image (run : CaseRun) : CaseRun :=
  ⟨(run.first + run.offset).toNat, (run.last + run.offset).toNat, run.step, 0⟩

/-- No code point is in both runs: their ranges are apart, or the remainders by the step of the
other are. -/
def CaseRun.misses (run other : CaseRun) : Bool :=
  run.last.blt other.first || other.last.blt run.first ||
    ((run.first = run.last || run.step % other.step = 0) &&
      run.first % other.step ≠ other.first % other.step)

/-- No run maps what another one maps to. -/
def settles (runs : List CaseRun) : Bool :=
  lowerRuns.all fun run =>
    decide (0 ≤ run.first + run.offset) && runs.all fun other => run.image.misses other

/-- A code point of a run has the remainder of its first one. -/
theorem mod_eq_of_sub_mod {code first step : Nat} (hle : first ≤ code)
    (hstep : (code - first) % step = 0) : code % step = first % step := by
  have hsum : code = first + (code - first) := by omega
  rw [hsum, Nat.add_mod, hstep, Nat.add_zero, Nat.mod_mod]

theorem CaseRun.covers_eq_false_of_misses {run other : CaseRun} {code : Nat}
    (h : run.misses other = true) (hrun : run.covers code = true) :
    other.covers code = false := by
  rw [Bool.eq_false_iff]
  intro hother
  obtain ⟨hfirst, hlast, hstep⟩ := covers_iff.mp hrun
  obtain ⟨hfirst', hlast', hstep'⟩ := covers_iff.mp hother
  simp only [misses, Bool.or_eq_true, Bool.and_eq_true, decide_eq_true_eq, Nat.blt_eq] at h
  rcases h with (hbelow | habove) | ⟨hsteps, hne⟩
  · omega
  · omega
  · apply hne
    have hcode : code % other.step = other.first % other.step := mod_eq_of_sub_mod hfirst' hstep'
    rcases hsteps with hsingle | hdvd
    · have hsame : code = run.first := by omega
      rw [← hcode, hsame]
    · -- The step of the other run divides that of this one.
      have hmultiple : (code - run.first) % other.step = 0 :=
        Nat.mod_eq_zero_of_dvd
          (Nat.dvd_trans (Nat.dvd_of_mod_eq_zero hdvd) (Nat.dvd_of_mod_eq_zero hstep))
      rw [← hcode, mod_eq_of_sub_mod hfirst hmultiple]

theorem CaseRun.image_covers {run : CaseRun} {code : Nat} (hnonneg : 0 ≤ run.first + run.offset)
    (h : run.covers code = true) : run.image.covers (code + run.offset).toNat = true := by
  obtain ⟨hfirst, hlast, hstep⟩ := covers_iff.mp h
  have hdistance : (code + run.offset).toNat - (run.first + run.offset).toNat =
      code - run.first := by omega
  apply covers_iff.mpr
  refine ⟨?_, ?_, ?_⟩
  · show (run.first + run.offset).toNat ≤ _
    omega
  · show _ ≤ (run.last + run.offset).toNat
    omega
  · show ((code + run.offset).toNat - (run.first + run.offset).toNat) % run.step = 0
    rw [hdistance, hstep]

/-! ## Lower case forms -/

/-- A lower case form consists of characters that are their own. -/
theorem lowerChar_of_mem_lowerChar {c d : Char} (hd : d ∈ lowerChar c) : lowerChar d = [d] := by
  unfold lowerChar at hd
  split at hd
  · simp only [List.mem_cons, List.not_mem_nil, or_false] at hd
    obtain rfl | rfl := hd
    · decide +kernel
    · decide +kernel
  case isFalse hdotted =>
    rw [List.mem_singleton] at hd
    rcases shiftBy_cases lowerRuns c.toNat with hsame | ⟨run, hrun, hcovers, hshift⟩
    · rw [hd, hsame, Char.ofNat_toNat, lowerChar, if_neg hdotted, hsame, Char.ofNat_toNat]
    · rcases toNat_ofNat_cases (shiftBy lowerRuns c.toNat) with hcode | hnull
      · have hsettles : settles loweredRuns = true := by decide +kernel
        have hall := List.all_eq_true.mp hsettles run hrun
        rw [Bool.and_eq_true, decide_eq_true_eq] at hall
        obtain ⟨hnonneg, hmisses⟩ := hall
        apply lowerChar_of_not_covered
        intro other hother
        have himage : run.image.covers d.toNat = true := by
          rw [hd, hcode, hshift]
          exact CaseRun.image_covers hnonneg hcovers
        have hapart := List.all_eq_true.mp hmisses other hother
        exact CaseRun.covers_eq_false_of_misses hapart himage
      · rw [hd, hnull]
        decide +kernel

theorem lowerChar_of_mem_lowerForm {before after : List Char} {c d : Char}
    (hd : d ∈ lowerForm before c after) : lowerChar d = [d] := by
  unfold lowerForm at hd
  split at hd
  · rw [List.mem_singleton] at hd
    rcases lowerSigma_cases before after with hform | hform
    · rw [hd, hform]
      decide +kernel
    · rw [hd, hform]
      decide +kernel
  · exact lowerChar_of_mem_lowerChar hd

/-- The text is in lower case: each of its characters is its own lower case form. -/
def Lowered (text : List Char) : Prop :=
  ∀ c ∈ text, lowerChar c = [c]

theorem lowered_lower (text : List Char) : Lowered (lower text) := by
  intro d hd
  obtain ⟨near, c, -, far, hform⟩ := mem_lowerAfter hd
  exact lowerChar_of_mem_lowerForm hform

/-- A text in lower case stays as it is. -/
theorem Lowered.lowerAfter_eq {text : List Char} (h : Lowered text) (before : List Char) :
    lowerAfter before text = text := by
  induction text generalizing before with
  | nil => rfl
  | cons c rest ih =>
      obtain ⟨hc, hrest⟩ := List.forall_mem_cons.mp h
      -- The capital sigma is the only character that looks around itself, and it has no place here.
      have hsigma : c ≠ 'Σ' := by
        rintro rfl
        exact absurd hc (by decide +kernel)
      rw [lowerAfter_cons, lowerForm, if_neg hsigma, hc, ih hrest]
      rfl

theorem Lowered.lower_eq {text : List Char} (h : Lowered text) : lower text = text :=
  h.lowerAfter_eq []

/-! ## The ends of texts -/

/-- The text begins or ends with a character of the kind. -/
def endsIn (kind : Char → Bool) (text : List Char) : Bool :=
  text.head?.any kind || text.getLast?.any kind

section Ends

variable {kind : Char → Bool} {text : List Char}

theorem endsIn_eq_false_iff :
    endsIn kind text = false ↔
      text.head?.any kind = false ∧ text.getLast?.any kind = false := by
  rw [endsIn, Bool.or_eq_false_iff]

theorem head?_lowerAfter (hkept : KeptByLower kind) (before : List Char) :
    (lowerAfter before text).head?.any kind = text.head?.any kind := by
  cases text with
  | nil => rfl
  | cons c rest =>
      obtain ⟨d, form, hform⟩ := List.exists_cons_of_ne_nil (lowerForm_ne_nil before c rest)
      have hd : d ∈ lowerForm before c rest := by
        rw [hform]
        exact List.mem_cons_self
      rw [lowerAfter_cons, hform]
      exact hkept before c rest d hd

theorem getLast?_lowerAfter (hkept : KeptByLower kind) (before : List Char) :
    (lowerAfter before text).getLast?.any kind = text.getLast?.any kind := by
  induction text generalizing before with
  | nil => rfl
  | cons c rest ih =>
      rw [lowerAfter_cons]
      cases rest with
      | nil =>
          -- the last character of its form is of the kind that the character is of
          have hne := lowerForm_ne_nil before c []
          have hlast : (lowerForm before c []).getLast hne ∈ lowerForm before c [] :=
            List.getLast_mem hne
          rw [show lowerAfter (c :: before) [] = [] from rfl, List.append_nil,
            List.getLast?_eq_getLast_of_ne_nil hne]
          exact hkept before c [] _ hlast
      | cons next rest =>
          have hne : lowerAfter (c :: before) (next :: rest) ≠ [] := by
            rw [lowerAfter_cons]
            exact fun h => lowerForm_ne_nil _ _ _ (List.append_eq_nil_iff.mp h).1
          rw [List.getLast?_append_of_ne_nil _ hne, ih, List.getLast?_cons_cons]

/-- Lower case keeps what the text begins and ends with, up to the kind. -/
theorem endsIn_lower (hkept : KeptByLower kind) (text : List Char) :
    endsIn kind (lower text) = endsIn kind text := by
  rw [endsIn, lower, head?_lowerAfter hkept, getLast?_lowerAfter hkept]
  rfl

/-! ## Trimmed texts -/

theorem dropWhile_eq_self (h : text.head?.any kind = false) : text.dropWhile kind = text := by
  cases text with
  | nil => rfl
  | cons c rest =>
      have hc : ¬ kind c = true := by simpa using h
      exact List.dropWhile_cons_of_neg hc

theorem head?_dropWhile (kind : Char → Bool) (text : List Char) :
    (text.dropWhile kind).head?.any kind = false := by
  induction text with
  | nil => rfl
  | cons c rest ih =>
      by_cases hc : kind c = true
      · rw [List.dropWhile_cons_of_pos hc]
        exact ih
      · rw [List.dropWhile_cons_of_neg hc]
        simpa using hc

/-- A text that neither begins nor ends with what would be dropped stays as it is. -/
theorem trimWhere_eq_self (h : endsIn kind text = false) : trimWhere kind text = text := by
  obtain ⟨hhead, hlast⟩ := endsIn_eq_false_iff.mp h
  have hback : text.reverse.dropWhile kind = text.reverse := by
    apply dropWhile_eq_self
    rw [List.head?_reverse]
    exact hlast
  rw [trimWhere, dropWhile_eq_self hhead, hback, List.reverse_reverse]

/-- And a trimmed text is such a text. -/
theorem endsIn_trimWhere (kind : Char → Bool) (text : List Char) :
    endsIn kind (trimWhere kind text) = false := by
  have hfront : (text.dropWhile kind).head?.any kind = false := head?_dropWhile kind text
  have htrim : trimWhere kind text = (text.dropWhile kind).rdropWhile kind := rfl
  apply endsIn_eq_false_iff.mpr
  constructor
  · -- What is left begins as it did before its end was trimmed, or nothing is left.
    obtain ⟨dropped, hdropped⟩ := List.rdropWhile_prefix kind (l := text.dropWhile kind)
    rw [htrim]
    cases hleft : (text.dropWhile kind).rdropWhile kind with
    | nil => rfl
    | cons c rest =>
        rw [hleft] at hdropped
        rw [← hdropped] at hfront
        exact hfront
  · rw [trimWhere, List.getLast?_reverse]
    exact head?_dropWhile kind _

/-- What is dropped on the two sides of a trimmed text is of the kind. -/
theorem exists_sides_of_trimWhere (kind : Char → Bool) (text : List Char) :
    ∃ front back, text = front ++ trimWhere kind text ++ back ∧ (∀ c ∈ front, kind c = true) ∧
      ∀ c ∈ back, kind c = true := by
  have hfront := List.takeWhile_append_dropWhile (p := kind) (l := text)
  have hback := List.takeWhile_append_dropWhile (p := kind) (l := (text.dropWhile kind).reverse)
  refine ⟨text.takeWhile kind, ((text.dropWhile kind).reverse.takeWhile kind).reverse, ?_,
    fun c hc => List.mem_takeWhile_imp hc,
    fun c hc => List.mem_takeWhile_imp (List.mem_reverse.mp hc)⟩
  rw [trimWhere, List.append_assoc, ← List.reverse_append, hback, List.reverse_reverse, hfront]

/-- A text between two of the kind is left, unless it begins or ends with the kind or is empty. -/
theorem trimWhere_of_sides {front back : List Char} (hne : text ≠ [])
    (hends : endsIn kind text = false) (hfront : ∀ c ∈ front, kind c = true)
    (hback : ∀ c ∈ back, kind c = true) : trimWhere kind (front ++ text ++ back) = text := by
  obtain ⟨hhead, hlast⟩ := endsIn_eq_false_iff.mp hends
  have hleft : (text ++ back).dropWhile kind = text ++ back := by
    apply dropWhile_eq_self
    rw [List.head?_append_of_ne_nil _ hne]
    exact hhead
  have hright : text.reverse.dropWhile kind = text.reverse := by
    apply dropWhile_eq_self
    rw [List.head?_reverse]
    exact hlast
  rw [trimWhere, List.append_assoc, List.dropWhile_append_of_pos hfront, hleft,
    List.reverse_append, List.dropWhile_append_of_pos fun c hc => hback c (List.mem_reverse.mp hc),
    hright, List.reverse_reverse]

end Ends

/-! ## Words joined by blanks -/

theorem words_of_unbroken {word : List Char} (h : Unbroken word) (hne : word ≠ []) :
    words word = [word] := by
  have hkept : (!word.isEmpty) = true := by simpa using hne
  rw [words, pieces_eq_singleton h, List.filter_singleton, hkept]
  rfl

theorem words_cons_blank {b : Char} (hb : isBlank b = true) (text : List Char) :
    words (b :: text) = words text :=
  words_append_blank hb [] text

/-- Blanks between two texts keep their words apart, however many they are. -/
theorem words_append_blanks {blanks : List Char} (hne : blanks ≠ [])
    (h : ∀ b ∈ blanks, isBlank b = true) (front rest : List Char) :
    words (front ++ blanks ++ rest) = words front ++ words rest := by
  have hskip : ∀ {more : List Char}, (∀ b ∈ more, isBlank b = true) →
      words (more ++ rest) = words rest := by
    intro more hmore
    induction more with
    | nil => rfl
    | cons b more ih =>
        obtain ⟨hb, hmore⟩ := List.forall_mem_cons.mp hmore
        rw [List.cons_append, words_cons_blank hb, ih hmore]
  obtain ⟨b, more, rfl⟩ := List.exists_cons_of_ne_nil hne
  obtain ⟨hb, hmore⟩ := List.forall_mem_cons.mp h
  rw [List.append_assoc, List.cons_append, words_append_blank hb, hskip hmore]

/-- Words joined by single blanks are the words of the text that they make. -/
theorem words_intercalate {parts : List (List Char)}
    (h : ∀ part ∈ parts, Unbroken part ∧ part ≠ []) :
    words ([' '].intercalate parts) = parts := by
  induction parts with
  | nil => rfl
  | cons first rest ih =>
      obtain ⟨⟨hfree, hne⟩, hrest⟩ := List.forall_mem_cons.mp h
      cases rest with
      | nil =>
          rw [List.intercalate_singleton]
          exact words_of_unbroken hfree hne
      | cons second rest =>
          have hjoin : [' '].intercalate (first :: second :: rest) =
              first ++ ' ' :: [' '].intercalate (second :: rest) := by
            simp [List.intercalate]
          rw [hjoin, words_append_blank (by decide), words_of_unbroken hfree hne, ih hrest]
          rfl

end CorpusQuery.Text
