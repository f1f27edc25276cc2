/-
  CorpusQuery.Proofs.Cqp.Quantifiers

  The text of a token pattern in two parts: what stands up to the bracket, and
  the quantifier behind it. A quantifier shows its two bounds, so that it can be
  told from its text whether it asks for more tokens at least than at most.
-/
import CorpusQuery.Cqp.Basic
import CorpusQuery.Decimal

namespace CorpusQuery.Cqp

/-! ## Parts of a token pattern -/

/-- How often a token may occur, where the pattern says so. -/
def Token.times? : Token → Option Repetition
  | .repeated _ times => some times
  | .any times => some times
  | _ => none

/-- The pattern up to the bracket that closes it. -/
def Token.bracketed : Token → List Char
  | .plain constraint => '[' :: constraint.chars ++ [']']
  | .repeated constraint _ => '[' :: constraint.chars ++ [']']
  | .both left right => '[' :: left.chars ++ " & ".toList ++ right.chars ++ [']']
  | .either left right => '[' :: left.chars ++ " | ".toList ++ right.chars ++ [']']
  | .any _ => " []".toList

/-- What follows the bracket. -/
def Token.quantifier (token : Token) : List Char :=
  token.times?.elim [] Repetition.chars

theorem Token.chars_eq_append (token : Token) :
    token.chars = token.bracketed ++ token.quantifier := by
  cases token with
  | repeated constraint times =>
      simp only [chars, bracketed, quantifier, times?, Option.elim_some, List.cons_append,
        List.append_assoc, List.nil_append]
  | any times => rfl
  | _ => exact (List.append_nil _).symm

/-- The text of a query is that of its patterns, each with its quantifier. -/
theorem toList_render (tokens : List Token) :
    (render tokens).toList =
      tokens.flatMap fun token => token.bracketed ++ token.quantifier := by
  rw [render, String.toList_ofList]
  exact congrArg tokens.flatMap (funext Token.chars_eq_append)

/-! ## Quantifiers the wrong way round -/

/-- The text is a quantifier that asks for more tokens at least than at most. -/
def IsReversed (text : List Char) : Prop :=
  ∃ least most : Nat, most < least ∧
    text = '{' :: Nat.toDigits 10 least ++ ',' :: Nat.toDigits 10 most ++ ['}', ' ']

/-- Digits up to a character that is none can be told apart. -/
theorem toDigits_append_inj {n m : Nat} {c d : Char} (hc : c.isDigit = false)
    (hd : d.isDigit = false) {rest more : List Char}
    (h : Nat.toDigits 10 n ++ c :: rest = Nat.toDigits 10 m ++ d :: more) :
    n = m ∧ c :: rest = d :: more := by
  have hspan := congrArg Decimal.spanDigits h
  rw [Decimal.spanDigits_toDigits n hc, Decimal.spanDigits_toDigits m hd, Prod.mk.injEq] at hspan
  obtain ⟨hdigits, hrest⟩ := hspan
  have hvalue := congrArg Decimal.digitsValue hdigits
  rw [Decimal.digitsValue_toDigits, Decimal.digitsValue_toDigits] at hvalue
  exact ⟨hvalue, hrest⟩

theorem Repetition.isReversed_chars_iff (times : Repetition) :
    IsReversed times.chars ↔ times.most < times.least := by
  have hclose : ('}' : Char).isDigit = false := by decide
  have hcomma : (',' : Char).isDigit = false := by decide
  constructor
  · rintro ⟨least, most, hlt, htext⟩
    unfold chars at htext
    simp only [List.cons_append, List.append_assoc] at htext
    split at htext
    · -- a blank opens no quantifier
      cases htext
    · split at htext
      · -- one number is followed by a brace where the second bound would follow
        obtain ⟨-, hrest⟩ := toDigits_append_inj hclose hcomma (List.cons.inj htext).2
        cases hrest
      · obtain ⟨hleast, hrest⟩ := toDigits_append_inj hcomma hcomma (List.cons.inj htext).2
        obtain ⟨hmost, -⟩ := toDigits_append_inj hclose hclose (List.cons.inj hrest).2
        rw [UInt32.lt_iff_toNat_lt, hleast, hmost]
        exact hlt
  · intro hlt
    -- Bounds the wrong way round differ, so that both are written.
    have hne : times.least ≠ times.most := (UInt32.ne_of_lt hlt).symm
    have hnotOnce : ¬ (times.least = 1 ∧ times.most = 1) := by
      rintro ⟨hleast, hmost⟩
      exact hne (hleast.trans hmost.symm)
    refine ⟨times.least.toNat, times.most.toNat, UInt32.lt_iff_toNat_lt.mp hlt, ?_⟩
    simp [chars, hne, hnotOnce]

end CorpusQuery.Cqp
