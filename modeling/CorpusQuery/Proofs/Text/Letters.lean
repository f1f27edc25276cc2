/-
  CorpusQuery.Proofs.Text.Letters

  Texts that come to Latin letters in the other case. In upper case the long s
  and the dotless i become capitals too, and a ligature becomes several, so
  that a text may come to given capitals in more ways than by its letters. In
  lower case the only letter that comes from elsewhere is k, from the sign for
  kelvin; the dotted capital I becomes i with a dot of its own after it.
-/
import CorpusQuery.Proofs.Text.Words
import Mathlib.Data.List.Forall2
import Mathlib.Data.List.Infix

namespace CorpusQuery.Text

/-! ## Letters as code points -/

theorem isUpper_iff {c : Char} : c.isUpper = true ↔ 0x41 ≤ c.toNat ∧ c.toNat ≤ 0x5A := by
  have hupper : c.isUpper = decide ('A'.val ≤ c.val ∧ c.val ≤ 'Z'.val) := rfl
  rw [hupper, decide_eq_true_eq, UInt32.le_iff_toNat_le, UInt32.le_iff_toNat_le]
  rfl

theorem isLower_iff {c : Char} : c.isLower = true ↔ 0x61 ≤ c.toNat ∧ c.toNat ≤ 0x7A := by
  have hlower : c.isLower = (decide ('a'.val ≤ c.val) && decide (c.val ≤ 'z'.val)) := rfl
  rw [hlower, Bool.and_eq_true, decide_eq_true_eq, decide_eq_true_eq, UInt32.le_iff_toNat_le,
    UInt32.le_iff_toNat_le]
  rfl

theorem isAlpha_iff {c : Char} : c.isAlpha = true ↔ c.isUpper = true ∨ c.isLower = true :=
  Bool.or_eq_true_iff

/-- The small letter of a capital lies 32 code points after it; any other character stays. -/
theorem toNat_toLower (c : Char) :
    c.toLower.toNat = if c.isUpper then c.toNat + 32 else c.toNat := by
  by_cases h : c.isUpper = true
  · have hrange : 'A'.val ≤ c.val ∧ c.val ≤ 'Z'.val := of_decide_eq_true h
    have hlast := (isUpper_iff.mp h).2
    have hlower : c.toLower.toNat = (c.val + 32).toNat := congrArg Char.toNat (dif_pos hrange)
    rw [if_pos h, hlower, UInt32.toNat_add]
    show (c.toNat + 32) % 2 ^ 32 = c.toNat + 32
    omega
  · have hrange : ¬ ('A'.val ≤ c.val ∧ c.val ≤ 'Z'.val) := fun hrange => h (decide_eq_true hrange)
    have hlower : c.toLower = c := dif_neg hrange
    rw [if_neg h, hlower]

theorem toLower_eq_iff_of_isLower {c letter : Char} (h : letter.isLower = true) :
    c.toLower = letter ↔ c = letter ∨ c.toNat + 32 = letter.toNat := by
  have hletter := isLower_iff.mp h
  rw [← Char.toNat_inj, ← Char.toNat_inj, toNat_toLower]
  by_cases hc : c.isUpper = true
  · have hupper := isUpper_iff.mp hc
    rw [if_pos hc]
    omega
  · have hupper : ¬ (0x41 ≤ c.toNat ∧ c.toNat ≤ 0x5A) := fun hrange => hc (isUpper_iff.mpr hrange)
    rw [if_neg hc]
    omega

/-! ## Runs that reach letters -/

/-- The code points from `low` to `high` are in reach of the run: some may be what it maps to. -/
def CaseRun.reaches (run : CaseRun) (low high : Nat) : Bool :=
  low ≤ (run.last + run.offset).toNat && (run.first + run.offset).toNat ≤ high

/-- A code point is mapped to one between `low` and `high` by a run that reaches them, or is there
already. -/
theorem shiftBy_cases_of_reaches {runs reaching : List CaseRun} {low high code image : Nat}
    (hreaching : runs.filter (·.reaches low high) = reaching) (himage : shiftBy runs code = image)
    (hlow : low ≤ image) (hhigh : image ≤ high) :
    code = image ∨ ∃ run ∈ reaching, run.first ≤ code ∧ code ≤ run.last ∧
      image = (code + run.offset).toNat := by
  rcases shiftBy_cases runs code with hsame | ⟨run, hrun, hcovers, hshift⟩
  · exact .inl (hsame.symm.trans himage)
  · obtain ⟨hfirst, hlast, -⟩ := CaseRun.covers_iff.mp hcovers
    rw [himage] at hshift
    have hreaches : run.reaches low high = true := by
      rw [CaseRun.reaches, Bool.and_eq_true, decide_eq_true_eq, decide_eq_true_eq]
      omega
    have hmem : run ∈ reaching := by
      rw [← hreaching]
      exact List.mem_filter.mpr ⟨hrun, hreaches⟩
    exact .inr ⟨run, hmem, hfirst, hlast, hshift⟩

/-- A character of a code point other than zero has this code point. -/
theorem eq_toNat_of_ofNat_eq {code : Nat} {c : Char} (h : Char.ofNat code = c) (hc : 0 < c.toNat) :
    code = c.toNat := by
  rcases toNat_ofNat_cases code with hcode | hnull
  · rw [← h, hcode]
  · rw [← h, hnull] at hc
    exact absurd hc (by decide)

/-! ## Upper case -/

/-- The character stands for a capital letter: it is the letter in either case, or the long s for
S, or the dotless i for I. -/
def IsVariant (letter c : Char) : Prop :=
  c = letter ∨ c = letter.toLower ∨ (letter = 'S' ∧ c = 'ſ') ∨ (letter = 'I' ∧ c = 'ı')

instance (letter c : Char) : Decidable (IsVariant letter c) :=
  inferInstanceAs (Decidable (_ ∨ _))

/-- Such a character is a letter from A to Z in either case, or one of the two others. -/
theorem IsVariant.isAlpha_or {letter c : Char} (h : IsVariant letter c)
    (hletter : letter.isUpper = true) : c.isAlpha = true ∨ c = 'ſ' ∨ c = 'ı' := by
  rcases h with rfl | rfl | ⟨-, rfl⟩ | ⟨-, rfl⟩
  · exact .inl (isAlpha_iff.mpr (.inl hletter))
  · have hcapital := isUpper_iff.mp hletter
    have hsmall : letter.toLower.isLower = true := by
      rw [isLower_iff, toNat_toLower, if_pos hletter]
      omega
    exact .inl (isAlpha_iff.mpr (.inr hsmall))
  · exact .inr (.inl rfl)
  · exact .inr (.inr rfl)

/-- The forms in upper case are characters, but for those of the table, which are longer. -/
theorem upperChar_cases (c : Char) :
    (∃ form ∈ upperExpansions.map Prod.snd, upperChar c = form.map Char.ofNat ∧ 1 < form.length) ∨
      upperChar c = [Char.ofNat (shiftBy upperRuns c.toNat)] := by
  unfold upperChar
  cases hlookup : upperExpansions.lookup c.toNat with
  | none => exact .inr rfl
  | some form =>
      have hlong : ∀ form ∈ upperExpansions.map Prod.snd, 1 < form.length := by decide +kernel
      obtain ⟨before, after, htable, -⟩ := List.lookup_eq_some_iff.mp hlookup
      have hform : form ∈ upperExpansions.map Prod.snd := by
        rw [htable, List.map_append, List.map_cons]
        exact List.mem_append_right _ List.mem_cons_self
      exact .inl ⟨form, hform, rfl, hlong form hform⟩

/-- Three runs lead to capitals: that of the small letters, and those of the dotless i and of the
long s by themselves. -/
theorem isVariant_of_upperChar {letter c : Char} (h : letter.isUpper = true)
    (hform : upperChar c = [letter]) : IsVariant letter c := by
  obtain ⟨hlow, hhigh⟩ := isUpper_iff.mp h
  rcases upperChar_cases c with ⟨form, -, hlonger, hlength⟩ | hsingle
  · have hone := congrArg List.length (hlonger.symm.trans hform)
    rw [List.length_map, List.length_singleton] at hone
    omega
  · have hchar := List.singleton_inj.mp (hsingle.symm.trans hform)
    have himage := eq_toNat_of_ofNat_eq hchar (by omega)
    have hreaching : upperRuns.filter (·.reaches 0x41 0x5A) =
        [⟨0x61, 0x7A, 1, -32⟩, ⟨0x131, 0x131, 1, -232⟩, ⟨0x17F, 0x17F, 1, -300⟩] := by
      decide +kernel
    rcases shiftBy_cases_of_reaches hreaching himage hlow hhigh with
      hsame | ⟨run, hrun, hfirst, hlast, hshift⟩
    · exact .inl (Char.toNat_inj.mp hsame)
    · simp only [List.mem_cons, List.not_mem_nil, or_false] at hrun
      rcases hrun with rfl | rfl | rfl
      · -- the small letters
        dsimp only at hfirst hlast hshift
        refine .inr (.inl (Char.toNat_inj.mp ?_))
        rw [toNat_toLower, if_pos h]
        omega
      · -- the dotless i
        have hc : c = 'ı' := Char.toNat_inj.mp (Nat.le_antisymm hlast hfirst)
        subst hc
        exact .inr (.inr (.inr ⟨Char.toNat_inj.mp hshift, rfl⟩))
      · -- the long s
        have hc : c = 'ſ' := Char.toNat_inj.mp (Nat.le_antisymm hlast hfirst)
        subst hc
        exact .inr (.inr (.inl ⟨Char.toNat_inj.mp hshift, rfl⟩))

theorem upperChar_of_isVariant {letter c : Char} (h : letter.isUpper = true)
    (hvariant : IsVariant letter c) : upperChar c = [letter] := by
  obtain ⟨hlow, hhigh⟩ := isUpper_iff.mp h
  -- There are 26 letters, and each has two forms of its own.
  have hforms : ∀ n < 26, upperChar (Char.ofNat (0x41 + n)) = [Char.ofNat (0x41 + n)] ∧
      upperChar (Char.ofNat (0x41 + n)).toLower = [Char.ofNat (0x41 + n)] := by decide +kernel
  have hletter : Char.ofNat (0x41 + (letter.toNat - 0x41)) = letter := by
    rw [Nat.add_sub_of_le hlow, Char.ofNat_toNat]
  obtain ⟨hcapital, hsmall⟩ := hforms (letter.toNat - 0x41) (by omega)
  rw [hletter] at hcapital hsmall
  rcases hvariant with rfl | rfl | ⟨rfl, rfl⟩ | ⟨rfl, rfl⟩
  · exact hcapital
  · exact hsmall
  · decide +kernel
  · decide +kernel

/-- A capital letter is the upper case form of the characters that stand for it, and of no other. -/
theorem upperChar_eq_singleton_iff {letter c : Char} (h : letter.isUpper = true) :
    upperChar c = [letter] ↔ IsVariant letter c :=
  ⟨isVariant_of_upperChar h, upperChar_of_isVariant h⟩

/-- The pairs of capitals that begin a form in upper case of more than one character. -/
def ligatures : List (List Char) :=
  [['S', 'S'], ['S', 'T'], ['F', 'F'], ['F', 'I'], ['F', 'L']]

/-- Any other form of more than one character has a character that is no capital in it. -/
theorem ligature_or_of_mem_upperExpansions :
    ∀ form ∈ upperExpansions.map Prod.snd,
      (∃ pair ∈ ligatures, pair <+: form.map Char.ofNat) ∨
        (form.map Char.ofNat).all Char.isUpper = false := by
  decide +kernel

/-- The text consists of capital letters, and no two of them are the beginning of what one character
comes to in upper case. -/
def IsPlain (text : List Char) : Prop :=
  (∀ c ∈ text, c.isUpper = true) ∧ ∀ pair ∈ ligatures, ¬ pair <:+: text

instance (text : List Char) : Decidable (IsPlain text) :=
  decidable_of_iff (text.all Char.isUpper = true ∧ ∀ pair ∈ ligatures, ¬ pair <:+: text)
    (and_congr_left' List.all_eq_true)

theorem IsPlain.of_cons {c : Char} {rest : List Char} (h : IsPlain (c :: rest)) : IsPlain rest :=
  ⟨(List.forall_mem_cons.mp h.1).2, fun pair hpair hpart =>
    h.2 pair hpair (hpart.trans (List.suffix_cons c rest).isInfix)⟩

/-- No plain text begins with a form of more than one character. -/
theorem IsPlain.not_begins_with {form : List Nat} {rest : List Char}
    (hform : form ∈ upperExpansions.map Prod.snd) : ¬ IsPlain (form.map Char.ofNat ++ rest) := by
  rintro ⟨hupper, hpairs⟩
  rcases ligature_or_of_mem_upperExpansions form hform with ⟨pair, hpair, hbegins⟩ | hother
  · exact hpairs pair hpair (hbegins.trans (List.prefix_append _ _)).isInfix
  · have hform : (form.map Char.ofNat).all Char.isUpper = true :=
      List.all_eq_true.mpr fun c hc => hupper c (List.mem_append_left _ hc)
    cases hform.symm.trans hother

/-- A text is a plain one in upper case exactly if its characters stand for the letters one by
one. -/
theorem upper_eq_iff {key text : List Char} (h : IsPlain key) :
    upper text = key ↔ List.Forall₂ IsVariant key text := by
  induction text generalizing key with
  | nil =>
      rw [List.forall₂_nil_right_iff]
      exact eq_comm
  | cons c rest ih =>
      rw [upper, List.flatMap_cons, List.forall₂_cons_right_iff]
      constructor
      · intro hkey
        rcases upperChar_cases c with ⟨form, hform, hlonger, -⟩ | hsingle
        · -- A longer form would stand within the key.
          rw [← hkey, hlonger] at h
          exact absurd h (IsPlain.not_begins_with hform)
        · rw [hsingle, List.singleton_append] at hkey
          subst hkey
          have hletter := h.1 _ List.mem_cons_self
          exact ⟨_, _, (upperChar_eq_singleton_iff hletter).mp hsingle,
            (ih h.of_cons).mp rfl, rfl⟩
      · rintro ⟨letter, key, hvariant, hrest, rfl⟩
        have hletter := h.1 letter List.mem_cons_self
        rw [(upperChar_eq_singleton_iff hletter).mpr hvariant, List.singleton_append]
        exact congrArg (letter :: ·) ((ih h.of_cons).mpr hrest)

/-! ## Lower case -/

/-- The form in lower case is a character, but for the dotted capital. -/
theorem lowerForm_cases (before : List Char) (c : Char) (after : List Char) :
    lowerForm before c after = ['i', '\u0307'] ∨ ∃ d, lowerForm before c after = [d] := by
  unfold lowerForm lowerChar
  split
  · exact .inr ⟨_, rfl⟩
  · split
    · exact .inl rfl
    · exact .inr ⟨_, rfl⟩

/-- Two runs lead to small letters: that of the capitals, and that of the sign for kelvin. -/
theorem toLower_eq_of_lowerForm {letter c : Char} (h : letter.isLower = true)
    (hkelvin : letter ≠ 'k') {before after : List Char}
    (hform : lowerForm before c after = [letter]) : c.toLower = letter := by
  obtain ⟨hlow, hhigh⟩ := isLower_iff.mp h
  rw [toLower_eq_iff_of_isLower h]
  unfold lowerForm lowerChar at hform
  split at hform
  · -- Neither form of the sigma is a letter of the alphabet.
    have hsigma := List.singleton_inj.mp hform
    rcases lowerSigma_cases before after with hfinal | hinner
    · rw [← hsigma, hfinal] at h
      exact absurd h (by decide)
    · rw [← hsigma, hinner] at h
      exact absurd h (by decide)
  · split at hform
    · cases hform
    · have himage := eq_toNat_of_ofNat_eq (List.singleton_inj.mp hform) (by omega)
      have hreaching : lowerRuns.filter (·.reaches 0x61 0x7A) =
          [⟨0x41, 0x5A, 1, 32⟩, ⟨0x212A, 0x212A, 1, -8383⟩] := by decide +kernel
      rcases shiftBy_cases_of_reaches hreaching himage hlow hhigh with
        hsame | ⟨run, hrun, hfirst, hlast, hshift⟩
      · exact .inl (Char.toNat_inj.mp hsame)
      · simp only [List.mem_cons, List.not_mem_nil, or_false] at hrun
        rcases hrun with rfl | rfl
        · -- the capitals
          dsimp only at hfirst hlast hshift
          exact .inr (by omega)
        · -- the sign for kelvin
          dsimp only at hfirst hlast hshift
          refine absurd (Char.toNat_inj.mp ?_) hkelvin
          show letter.toNat = 0x6B
          omega

theorem lowerForm_of_toLower_eq {letter c : Char} (h : letter.isLower = true)
    (hletter : c.toLower = letter) (before after : List Char) :
    lowerForm before c after = [letter] := by
  obtain ⟨hlow, hhigh⟩ := isLower_iff.mp h
  rw [toLower_eq_iff_of_isLower h] at hletter
  -- There are 26 letters, and each is the form of its capital and of itself.
  have hforms : ∀ n < 26, lowerChar (Char.ofNat (0x61 + n)) = [Char.ofNat (0x61 + n)] ∧
      lowerChar (Char.ofNat (0x41 + n)) = [Char.ofNat (0x61 + n)] := by decide +kernel
  obtain ⟨hsmall, hcapital⟩ := hforms (letter.toNat - 0x61) (by omega)
  rw [Nat.add_sub_of_le hlow, Char.ofNat_toNat] at hsmall hcapital
  have hsigma : c ≠ 'Σ' := by
    rintro rfl
    have hcode : 'Σ'.toNat = 0x3A3 := rfl
    rcases hletter with rfl | hletter
    · omega
    · omega
  rw [lowerForm, if_neg hsigma]
  rcases hletter with rfl | hletter
  · exact hsmall
  · have hc : Char.ofNat (0x41 + (letter.toNat - 0x61)) = c := by
      rw [show 0x41 + (letter.toNat - 0x61) = c.toNat by omega, Char.ofNat_toNat]
    rw [← hc]
    exact hcapital

/-- A small letter other than k is the lower case form of the letter in either case, and of nothing
else. -/
theorem lowerForm_eq_singleton_iff {letter c : Char} (h : letter.isLower = true)
    (hkelvin : letter ≠ 'k') (before after : List Char) :
    lowerForm before c after = [letter] ↔ c.toLower = letter :=
  ⟨toLower_eq_of_lowerForm h hkelvin, fun hletter => lowerForm_of_toLower_eq h hletter before after⟩

/-- A text is a word of such letters in lower case exactly if it is the word up to the case of its
letters. -/
theorem lowerAfter_eq_iff {word text : List Char}
    (h : ∀ letter ∈ word, letter.isLower = true ∧ letter ≠ 'k') (before : List Char) :
    lowerAfter before text = word ↔ text.map Char.toLower = word := by
  induction text generalizing before word with
  | nil => exact Iff.rfl
  | cons c rest ih =>
      rw [lowerAfter_cons, List.map_cons]
      constructor
      · intro hword
        rcases lowerForm_cases before c rest with hdotted | ⟨d, hform⟩
        · -- The dot after the i is no letter of the word.
          rw [hdotted] at hword
          have hdot : '\u0307' ∈ word := by
            rw [← hword]
            exact List.mem_append_left _ (List.mem_cons_of_mem _ List.mem_cons_self)
          exact absurd (h _ hdot).1 (by decide)
        · rw [hform, List.singleton_append] at hword
          subst hword
          obtain ⟨⟨hd, hkelvin⟩, hrest⟩ := List.forall_mem_cons.mp h
          rw [(lowerForm_eq_singleton_iff hd hkelvin before rest).mp hform]
          exact congrArg (d :: ·) ((ih hrest _).mp rfl)
      · rintro rfl
        obtain ⟨⟨hd, hkelvin⟩, hrest⟩ := List.forall_mem_cons.mp h
        rw [(lowerForm_eq_singleton_iff hd hkelvin before rest).mpr rfl, List.singleton_append]
        exact congrArg (c.toLower :: ·) ((ih hrest _).mpr rfl)

theorem lower_eq_iff {word text : List Char}
    (h : ∀ letter ∈ word, letter.isLower = true ∧ letter ≠ 'k') :
    lower text = word ↔ text.map Char.toLower = word :=
  lowerAfter_eq_iff h []

end CorpusQuery.Text
