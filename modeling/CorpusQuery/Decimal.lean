/-
  CorpusQuery.Decimal

  Decimal literals: their grammar, the value of their digits, and the limits
  above which a literal is refused because a binary64 number cannot hold it.
-/

namespace CorpusQuery.Decimal

/-! ## Literals -/

/-- The parts of a literal. -/
structure Literal where
  negative : Bool
  whole : List Char
  fraction : Option (List Char)
  exponent : Option Int
  deriving DecidableEq, Repr

/-- The value of decimal digits. -/
def digitsValue (digits : List Char) : Nat :=
  Nat.ofDigitChars 10 digits 0

/-- Splits off the leading digits. -/
def spanDigits (text : List Char) : List Char × List Char :=
  (text.takeWhile Char.isDigit, text.dropWhile Char.isDigit)

/-- The digits of a number end where a character follows that is no digit. -/
theorem spanDigits_toDigits (n : Nat) {c : Char} (hc : c.isDigit = false) (rest : List Char) :
    spanDigits (Nat.toDigits 10 n ++ c :: rest) = (Nat.toDigits 10 n, c :: rest) := by
  have hdigits : ∀ d ∈ Nat.toDigits 10 n, d.isDigit = true := fun d hd =>
    Nat.isDigit_of_mem_toDigits (by decide) (by decide) hd
  rw [spanDigits, List.takeWhile_append_of_pos hdigits, List.dropWhile_append_of_pos hdigits]
  simp [hc]

@[simp] theorem digitsValue_toDigits (n : Nat) : digitsValue (Nat.toDigits 10 n) = n :=
  Nat.ofDigitChars_ten_toDigits

/-- The exponent part: nothing, or a mark, an optional sign and at least one digit. -/
def exponentOf? : List Char → Option (Option Int)
  | [] => some none
  | mark :: rest =>
    if mark = 'e' || mark = 'E' then
      let (negative, digits) := match rest with
        | '+' :: digits => (false, digits)
        | '-' :: digits => (true, digits)
        | digits => (false, digits)
      if digits.isEmpty || !digits.all Char.isDigit then none
      else
        let size : Int := digitsValue digits
        some (some (if negative then -size else size))
    else none

/-- Reads a literal: an optional minus sign, digits without a needless leading zero, an optional
fraction of at least one digit, an optional exponent. -/
def Literal.ofChars? (text : List Char) : Option Literal :=
  let (negative, unsigned) := match text with
    | '-' :: rest => (true, rest)
    | rest => (false, rest)
  let (whole, rest) := spanDigits unsigned
  if whole.isEmpty || (whole.head? = some '0' && whole.length ≠ 1) then none
  else match rest with
    | '.' :: more =>
      let (fraction, tail) := spanDigits more
      if fraction.isEmpty then none
      else (exponentOf? tail).map fun exponent => ⟨negative, whole, some fraction, exponent⟩
    | tail => (exponentOf? tail).map fun exponent => ⟨negative, whole, none, exponent⟩

/-! ## Limits

A literal is too large for binary64 numbers if it rounds to infinity. That is decided by the value
itself, or by a product whose factors have been rounded before. -/

/-- The least number that rounds to infinity: it lies halfway between the largest finite number and
the power of two after it. -/
def overflowBound : Nat := Nat.pow 2 1024 - Nat.pow 2 970

/-- The value of the literal rounds to infinity. -/
def Literal.overflows (literal : Literal) : Bool :=
  let fraction := literal.fraction.getD []
  let digits := (literal.whole ++ fraction).dropWhile (· = '0')
  let power := literal.exponent.getD 0 - fraction.length
  -- The bound has 309 digits, so that only a number of as many needs a closer look.
  let size := digits.length + power
  !digits.isEmpty && (size > 309 || (size = 309 &&
    digitsValue digits * Nat.pow 10 power.toNat ≥ overflowBound * Nat.pow 10 (-power).toNat))

/-! ### Rounding in two steps

The value is taken as a significand of at most 64 bits times a power of ten. The digits that no
longer fit only scale the value. Both factors are rounded to 53 binary digits, and then their
product. -/

/-- Takes digits into a significand while it stays below `2 ^ 64`; gives the rest back. -/
def takeSignificand (soFar : Nat) : List Char → Nat × List Char
  | [] => (soFar, [])
  | digit :: rest =>
    let next := 10 * soFar + (digit.toNat - '0'.toNat)
    if next < Nat.pow 2 64 then takeSignificand next rest else (soFar, digit :: rest)

/-- A number rounded to 53 significant binary digits, a half to the even neighbour. -/
def roundBinary (n : Nat) : Nat :=
  if n < Nat.pow 2 53 then n
  else
    -- `n` has `n.log2 + 1` binary digits, of which all but 53 are rounded away.
    let unit := Nat.pow 2 (n.log2 - 52)
    let quotient := n / unit
    let rest := n % unit
    let up := 2 * rest > unit || (2 * rest = unit && quotient % 2 = 1)
    (if up then quotient + 1 else quotient) * unit

/-- The significand of a literal and the power of ten that scales it. -/
def Literal.scaled (literal : Literal) : Nat × Int :=
  let (first, wholeRest) := takeSignificand 0 literal.whole
  let fraction := literal.fraction.getD []
  let (significand, fractionRest) := takeSignificand first fraction
  (significand, wholeRest.length - (fraction.length - fractionRest.length)
    + literal.exponent.getD 0)

/-- The product of the rounded factors of the literal rounds to infinity. -/
def Literal.productOverflows (literal : Literal) : Bool :=
  let (significand, power) := literal.scaled
  significand ≠ 0 && power ≥ 0 &&
    (power > 308 || roundBinary significand * roundBinary (Nat.pow 10 power.toNat)
      ≥ overflowBound)

end CorpusQuery.Decimal
