/-
  CorpusQuery.Json.Number

  Reading and writing JSON numbers.
-/
import CorpusQuery.Decimal
import CorpusQuery.Json.Basic

namespace CorpusQuery.Json

open Decimal (Literal digitsValue)

/-- The number that a literal stands for. -/
def Number.ofLiteral (text : List Char) (literal : Literal) : Number :=
  let size := digitsValue literal.whole
  if literal.fraction.isNone && literal.exponent.isNone && !(literal.negative && size = 0) then
    .int (if literal.negative then -(size : Int) else size)
  else .real (String.ofList text)

/-- Reads a number; `none` for what is no literal and for one that is too large. -/
def Number.ofChars? (text : List Char) : Option Number :=
  match Literal.ofChars? text with
  | some literal => if literal.productOverflows then none else some (.ofLiteral text literal)
  | none => none

/-- The text of a number. -/
def Number.toChars : Number → List Char
  | .int (.ofNat n) => Nat.toDigits 10 n
  | .int (.negSucc n) => '-' :: Nat.toDigits 10 (n + 1)
  | .real literal => literal.toList

end CorpusQuery.Json
