/-
  CorpusQuery.Proofs.Json.Numbers

  Numbers read from the text they are written as: decimal digits, what holds
  of every literal, and the numbers that are read back from their own text. A
  whole number is read from its decimal digits and from no other text.
-/
import CorpusQuery.Json.Reader

namespace CorpusQuery

open Decimal (Literal digitsValue spanDigits takeSignificand roundBinary overflowBound)

/-! ## Decimal digits -/

namespace Decimal

/-- A positive number is written without leading zeros. -/
theorem head?_toDigits {n : Nat} (hn : 0 < n) : (Nat.toDigits 10 n).head? ≠ some '0' := by
  induction n using Nat.strongRecOn with
  | ind n ih =>
      rcases Nat.lt_or_ge n 10 with hlt | hge
      · have hdigit : ∀ m < 10, 0 < m → Nat.digitChar m ≠ '0' := by decide
        rw [Nat.toDigits_of_lt_base hlt, List.head?_cons]
        exact fun h => hdigit n hlt hn (Option.some.inj h)
      · -- The first digit is that of the number without its last digit.
        have htens := ih (n / 10) (by omega) (by omega)
        rw [Nat.toDigits_of_base_le (by decide) hge]
        cases hdigits : Nat.toDigits 10 (n / 10) with
        | nil => exact absurd hdigits Nat.toDigits_ne_nil
        | cons digit rest => rwa [hdigits] at htens

/-- Digits of a number below `2 ^ 64` all fit into the significand. -/
theorem takeSignificand_of_lt (digits : List Char) (soFar : Nat)
    (h : Nat.ofDigitChars 10 digits soFar < Nat.pow 2 64) :
    takeSignificand soFar digits = (Nat.ofDigitChars 10 digits soFar, []) := by
  induction digits generalizing soFar with
  | nil => rfl
  | cons digit rest ih =>
      have hrest : Nat.ofDigitChars 10 (digit :: rest) soFar
          = Nat.ofDigitChars 10 rest (10 * soFar + (digit.toNat - '0'.toNat)) := rfl
      rw [hrest] at h ⊢
      have hgrows : 10 * soFar + (digit.toNat - '0'.toNat) < Nat.pow 2 64 := by
        rw [Nat.ofDigitChars_eq_ofDigitChars_zero] at h
        have hle := Nat.le_mul_of_pos_left (10 * soFar + (digit.toNat - '0'.toNat))
          (Nat.pow_pos (n := rest.length) (show 0 < 10 by decide))
        omega
      have htakes : takeSignificand soFar (digit :: rest)
          = takeSignificand (10 * soFar + (digit.toNat - '0'.toNat)) rest := if_pos hgrows
      rw [htakes]
      exact ih _ h

/-- The digits of a number are a literal: a whole part alone. -/
theorem Literal.ofChars?_toDigits (n : Nat) :
    Literal.ofChars? (Nat.toDigits 10 n) = some ⟨false, Nat.toDigits 10 n, none, none⟩ := by
  have hdigits : ∀ c ∈ Nat.toDigits 10 n, c.isDigit = true := fun c hc =>
    Nat.isDigit_of_mem_toDigits (by decide) (by decide) hc
  have hspan : spanDigits (Nat.toDigits 10 n) = (Nat.toDigits 10 n, []) := by
    have htake : (Nat.toDigits 10 n ++ []).takeWhile Char.isDigit = Nat.toDigits 10 n ++ [] :=
      List.takeWhile_append_of_pos hdigits
    have hdrop : (Nat.toDigits 10 n ++ []).dropWhile Char.isDigit = [] :=
      List.dropWhile_append_of_pos hdigits
    rw [List.append_nil] at htake hdrop
    rw [spanDigits, htake, hdrop]
  -- A leading zero is needless unless it is the only digit, as it is for zero itself.
  have hzero : (Nat.toDigits 10 n).head? = some '0' → (Nat.toDigits 10 n).length = 1 := by
    intro hhead
    rcases Nat.eq_zero_or_pos n with rfl | hn
    · rw [Nat.toDigits_zero, List.length_singleton]
    · exact absurd hhead (head?_toDigits hn)
  cases htext : Nat.toDigits 10 n with
  | nil => exact absurd htext Nat.toDigits_ne_nil
  | cons digit rest =>
      rw [htext] at hdigits hspan hzero
      have hminus : digit ≠ '-' := by
        rintro rfl
        exact absurd (hdigits '-' List.mem_cons_self) (by decide)
      unfold Literal.ofChars?
      split
      rename_i negative unsigned heq
      split at heq
      · rename_i hsign
        exact absurd (List.cons.inj hsign).1 hminus
      · obtain ⟨rfl, rfl⟩ := Prod.mk.inj heq
        rw [hspan]
        simp only [List.isEmpty_cons, Bool.false_or, exponentOf?, Option.map_some]
        rw [if_neg]
        simpa using hzero

/-- A whole number that binary64 numbers hold exactly does not overflow. -/
theorem Literal.productOverflows_toDigits {n : Nat} (hn : n < Nat.pow 2 53) :
    Literal.productOverflows ⟨false, Nat.toDigits 10 n, none, none⟩ = false := by
  have htake : takeSignificand 0 (Nat.toDigits 10 n) = (n, []) := by
    have h := takeSignificand_of_lt (Nat.toDigits 10 n) 0
    rw [Nat.ofDigitChars_ten_toDigits] at h
    exact h (Nat.lt_trans hn (by decide))
  have hscaled : Literal.scaled ⟨false, Nat.toDigits 10 n, none, none⟩ = (n, 0) := by
    simp [Literal.scaled, htake, takeSignificand]
  -- No digit is left over, so that the power is zero and nothing is rounded.
  have hsmall : roundBinary n * roundBinary (Nat.pow 10 (0 : Int).toNat) < overflowBound := by
    have hround : roundBinary n = n := if_pos hn
    have hone : roundBinary (Nat.pow 10 (0 : Int).toNat) = 1 := by decide
    have hbound : Nat.pow 2 53 < overflowBound := by decide +kernel
    rw [hround, hone, Nat.mul_one]
    exact Nat.lt_trans hn hbound
  rw [Literal.productOverflows, hscaled]
  simp only [decide_eq_false (Nat.not_le.mpr hsmall), ge_iff_le]
  simp

/-! ### From digits to numbers -/

/-- A digit is the character of a number below ten. -/
theorem exists_digitChar_of_isDigit {digit : Char} (h : digit.isDigit = true) :
    ∃ d < 10, Nat.digitChar d = digit := by
  obtain ⟨hlow, hhigh⟩ := Char.isDigit_iff_toNat.mp h
  have hlow : 48 ≤ digit.toNat := hlow
  have hhigh : digit.toNat ≤ 57 := hhigh
  have hlt : digit.toNat - 48 < 10 := by omega
  refine ⟨digit.toNat - 48, hlt, Char.toNat_inj.mp ?_⟩
  rw [Nat.toNat_digitChar_of_lt_ten hlt]
  omega

/-- Digits after a positive number are the last digits of the number they go on to. -/
theorem toDigits_append_digits {digits : List Char} (hdigits : ∀ c ∈ digits, c.isDigit = true)
    {soFar : Nat} (hpos : 0 < soFar) :
    Nat.toDigits 10 soFar ++ digits = Nat.toDigits 10 (Nat.ofDigitChars 10 digits soFar) := by
  induction digits generalizing soFar with
  | nil => rw [List.append_nil, Nat.ofDigitChars_nil]
  | cons digit rest ih =>
      obtain ⟨hdigit, hrest⟩ := List.forall_mem_cons.mp hdigits
      obtain ⟨d, hd, rfl⟩ := exists_digitChar_of_isDigit hdigit
      have hgrows : 0 < 10 * soFar + d := by omega
      have hstep :
          Nat.toDigits 10 soFar ++ [Nat.digitChar d] = Nat.toDigits 10 (10 * soFar + d) := by
        rw [← Nat.toDigits_append_toDigits (by decide) hpos hd, Nat.toDigits_of_lt_base hd]
      rw [Nat.ofDigitChars_cons_digitChar_of_lt_ten hd, ← ih hrest hgrows, ← hstep,
        List.append_assoc, List.singleton_append]

/-- Digits without a needless leading zero are those of their value. -/
theorem toDigits_digitsValue {digits : List Char} (hne : digits ≠ [])
    (hdigits : ∀ c ∈ digits, c.isDigit = true)
    (hzero : digits.head? = some '0' → digits.length = 1) :
    Nat.toDigits 10 (digitsValue digits) = digits := by
  cases digits with
  | nil => exact absurd rfl hne
  | cons digit rest =>
      obtain ⟨hdigit, hrest⟩ := List.forall_mem_cons.mp hdigits
      obtain ⟨d, hd, rfl⟩ := exists_digitChar_of_isDigit hdigit
      rw [digitsValue, Nat.ofDigitChars_cons_digitChar_of_lt_ten hd, Nat.mul_zero, Nat.zero_add]
      rcases Nat.eq_zero_or_pos d with rfl | hpos
      · -- a leading zero stands alone
        have hlength := hzero rfl
        have hnil : rest = [] := List.length_eq_zero_iff.mp (by simpa using hlength)
        rw [hnil]
        rfl
      · rw [← toDigits_append_digits hrest hpos, Nat.toDigits_of_lt_base hd]
        rfl

theorem exponentOf?_eq_some_none {text : List Char} (h : exponentOf? text = some none) :
    text = [] := by
  cases text with
  | nil => rfl
  | cons mark rest =>
      unfold exponentOf? at h
      dsimp only at h
      -- A mark is followed by an exponent or by nothing that is read.
      repeat' split at h
      all_goals cases h

/-- A literal without fraction and exponent is a sign and digits. -/
theorem Literal.text_of_ofChars? {text : List Char} {literal : Literal}
    (h : Literal.ofChars? text = some literal) (hfraction : literal.fraction = none)
    (hexponent : literal.exponent = none) :
    text = (if literal.negative then ['-'] else []) ++ literal.whole ∧
      Nat.toDigits 10 (digitsValue literal.whole) = literal.whole := by
  unfold Literal.ofChars? at h
  split at h
  rename_i negative unsigned hsign
  split at h
  rename_i whole rest hspan
  split at h
  · cases h
  rename_i hwhole
  have hparts : whole = unsigned.takeWhile Char.isDigit ∧ rest = unsigned.dropWhile Char.isDigit :=
    ⟨(congrArg Prod.fst hspan).symm, (congrArg Prod.snd hspan).symm⟩
  have hrest : literal.negative = negative ∧ literal.whole = whole ∧ rest = [] := by
    split at h
    · -- with a fraction
      split at h
      split at h
      · cases h
      · obtain ⟨exponent, -, rfl⟩ := Option.map_eq_some_iff.mp h
        cases hfraction
    · obtain ⟨exponent, hread, rfl⟩ := Option.map_eq_some_iff.mp h
      cases hexponent
      exact ⟨rfl, rfl, exponentOf?_eq_some_none hread⟩
  obtain ⟨rfl, rfl, rfl⟩ := hrest
  have hunsigned : unsigned = literal.whole := by
    have hsplit := List.takeWhile_append_dropWhile (p := Char.isDigit) (l := unsigned)
    rw [← hparts.1, ← hparts.2, List.append_nil] at hsplit
    exact hsplit.symm
  constructor
  · rw [← hunsigned]
    split at hsign
    · obtain ⟨hnegative, hbody⟩ := Prod.mk.inj hsign
      rw [← hnegative, ← hbody]
      rfl
    · obtain ⟨hnegative, hbody⟩ := Prod.mk.inj hsign
      rw [← hnegative, ← hbody]
      rfl
  · simp only [Bool.or_eq_true, Bool.and_eq_true, decide_eq_true_eq, not_or, not_and,
      Classical.not_not] at hwhole
    refine toDigits_digitsValue (fun hnil => hwhole.1 (by rw [hnil]; rfl)) ?_ hwhole.2
    rw [hparts.1]
    exact List.all_eq_true.mp List.all_takeWhile

end Decimal

/-! ## Numbers -/

namespace Json

/-- The number is read from its own text. Only a number that is too large, or a real number that no
literal stands for, is not. -/
def Number.ReadsBack (n : Number) : Prop :=
  Number.ofChars? n.toChars = some n

theorem Number.readsBack_ofNat {n : Nat} (hn : n < Nat.pow 2 53) : (Number.int n).ReadsBack := by
  show Number.ofChars? (Nat.toDigits 10 n) = some (.int n)
  rw [Number.ofChars?, Literal.ofChars?_toDigits]
  simp only
  rw [if_neg (by rw [Literal.productOverflows_toDigits hn]; decide)]
  simp [Number.ofLiteral]

/-- Only the decimal digits of a number are read as that whole number: no sign, no leading zero, no
fraction, no exponent. -/
theorem Number.eq_toDigits_of_ofChars? {text : List Char} {n : Nat}
    (h : Number.ofChars? text = some (.int n)) : text = Nat.toDigits 10 n := by
  unfold Number.ofChars? at h
  split at h
  · rename_i literal hliteral
    split at h
    · cases h
    · unfold Number.ofLiteral at h
      dsimp only at h
      split at h
      · rename_i hplain
        simp only [Bool.and_eq_true, Option.isNone_iff_eq_none, Bool.not_eq_true'] at hplain
        obtain ⟨⟨hfraction, hexponent⟩, hzero⟩ := hplain
        obtain ⟨htext, hwhole⟩ := Literal.text_of_ofChars? hliteral hfraction hexponent
        have hvalue : (if literal.negative then -(digitsValue literal.whole : Int)
            else digitsValue literal.whole) = n := by
          injection h with h
          injection h
        cases hnegative : literal.negative with
        | true =>
            -- a number with a sign is below zero, or it is a zero that is no integer
            simp only [hnegative, if_true, Bool.true_and, decide_eq_false_iff_not] at hvalue hzero
            omega
        | false =>
            simp only [hnegative, Bool.false_eq_true, if_false, Int.natCast_inj] at hvalue htext
            rw [htext, ← hvalue, hwhole]
            rfl
      · cases h
  · cases h

/-! ### The characters of numbers -/

theorem isBare_of_isDigit {c : Char} (h : c.isDigit = true) : isBare c = true := by
  simp [isBare, Char.isAlphanum, h]

/-- What follows the leading digits of a text decides whether all of it could be a number. -/
theorem isBare_of_spanDigits {text : List Char} (h : ∀ c ∈ (spanDigits text).2, isBare c = true) :
    ∀ c ∈ text, isBare c = true := by
  intro c hc
  rw [← List.takeWhile_append_dropWhile (p := Char.isDigit) (l := text)] at hc
  rcases List.mem_append.mp hc with hdigit | hrest
  · have hall := List.all_takeWhile (p := Char.isDigit) (l := text)
    exact isBare_of_isDigit (List.all_eq_true.mp hall c hdigit)
  · exact h c hrest

theorem isBare_of_exponentOf? {text : List Char} {exponent : Option Int}
    (h : Decimal.exponentOf? text = some exponent) : ∀ c ∈ text, isBare c = true := by
  cases text with
  | nil => exact fun c hc => absurd hc List.not_mem_nil
  | cons mark rest =>
      unfold Decimal.exponentOf? at h
      dsimp only at h
      by_cases hmark : (mark = 'e' || mark = 'E') = true
      · rw [if_pos hmark] at h
        have hmark : isBare mark = true := by
          simp only [Bool.or_eq_true, decide_eq_true_eq] at hmark
          rcases hmark with rfl | rfl <;> decide
        have hdigits : ∀ {digits : List Char} {result : Option (Option Int)},
            (if digits.isEmpty || !digits.all Char.isDigit then none else result) = some exponent →
              ∀ c ∈ digits, isBare c = true := by
          intro digits result hread c hc
          split at hread
          · cases hread
          · rename_i hall
            simp only [Bool.or_eq_true, Bool.not_eq_true', not_or, Bool.not_eq_false] at hall
            exact isBare_of_isDigit (List.all_eq_true.mp hall.2 c hc)
        refine List.forall_mem_cons.mpr ⟨hmark, ?_⟩
        -- The digits may follow a plus sign, a minus sign or nothing.
        split at h
        · exact List.forall_mem_cons.mpr ⟨by decide, hdigits h⟩
        · exact List.forall_mem_cons.mpr ⟨by decide, hdigits h⟩
        · exact hdigits h
      · rw [if_neg hmark] at h
        cases h

/-- A literal is made of characters of numbers only. -/
theorem isBare_of_literal {text : List Char} {literal : Literal}
    (h : Literal.ofChars? text = some literal) : ∀ c ∈ text, isBare c = true := by
  unfold Literal.ofChars? at h
  split at h
  rename_i negative unsigned hsign
  have hunsigned : ∀ c ∈ unsigned, isBare c = true := by
    apply isBare_of_spanDigits
    split at h
    rename_i whole rest hspan
    rw [hspan]
    split at h
    · cases h
    -- After the whole part: a fraction and an exponent, or an exponent alone.
    split at h
    · rename_i more
      refine List.forall_mem_cons.mpr ⟨by decide, isBare_of_spanDigits ?_⟩
      split at h
      rename_i fraction tail hfraction
      rw [hfraction]
      split at h
      · cases h
      · obtain ⟨exponent, hexponent, -⟩ := Option.map_eq_some_iff.mp h
        exact isBare_of_exponentOf? hexponent
    · obtain ⟨exponent, hexponent, -⟩ := Option.map_eq_some_iff.mp h
      exact isBare_of_exponentOf? hexponent
  split at hsign
  · obtain ⟨-, rfl⟩ := Prod.mk.inj hsign
    exact List.forall_mem_cons.mpr ⟨by decide, hunsigned⟩
  · obtain ⟨-, rfl⟩ := Prod.mk.inj hsign
    exact hunsigned

theorem Number.ReadsBack.isBare {n : Number} (h : n.ReadsBack) :
    ∀ c ∈ n.toChars, Json.isBare c = true := by
  unfold Number.ReadsBack Number.ofChars? at h
  split at h
  · rename_i literal hliteral
    exact isBare_of_literal hliteral
  · cases h

/-- A number is not taken for a word. -/
theorem Number.ReadsBack.atomOf? {n : Number} (h : n.ReadsBack) :
    Json.atomOf? n.toChars = some (.number n) := by
  have hword : ∀ word, Number.ofChars? word = none → n.toChars ≠ word := by
    intro word hnone heq
    rw [Number.ReadsBack, heq, hnone] at h
    cases h
  rw [Json.atomOf?, if_neg (hword _ (by decide)), if_neg (hword _ (by decide)),
    if_neg (hword _ (by decide)), h]
  rfl

end Json

end CorpusQuery
