/-
  CorpusQuery.Toml.Bare

  TOML values that are written without quotes or brackets: truth values,
  integers, floats, dates and times.
-/
import CorpusQuery.Decimal
import CorpusQuery.Text.Hex
import CorpusQuery.Toml.Basic

namespace CorpusQuery.Toml

open Decimal (Literal digitsValue)

/-! ## Numbers -/

/-- Takes out the underscores; each has to stand between two digits. -/
def withoutUnderscores? (isDigit : Char → Bool) : List Char → Option (List Char)
  | [] => some []
  | '_' :: _ => none
  | c :: '_' :: d :: rest =>
    if isDigit c && isDigit d then
      (withoutUnderscores? isDigit (d :: rest)).map (c :: ·)
    else none
  | c :: rest => (withoutUnderscores? isDigit rest).map (c :: ·)

/-- The bounds of integers: the values of 128-bit integers with or without a sign. -/
def inBounds (value : Int) : Bool :=
  -(Nat.pow 2 127 : Nat) ≤ value && value < (Nat.pow 2 128 : Nat)

/-- The value of digits in a base up to sixteen. -/
def digitsIn? (base : Nat) (digits : List Char) : Option Nat :=
  digits.foldlM (fun value c =>
    (Text.hexValue? c).bind fun digit => if digit < base then some (base * value + digit) else none)
    0

/-- Reads an integer with a base mark: digits of the base, and neither sign nor leading mark. -/
def based? (base : Nat) (digits : List Char) : Option Value := do
  let digits ← withoutUnderscores? (fun c => (Text.hexValue? c).isSome) digits
  if digits.isEmpty then none
  let value ← digitsIn? base digits
  if inBounds value then some (.int value) else none

/-- Reads a decimal integer or a float, after its sign. -/
def decimal? (negative : Bool) (digits : List Char) : Option Value := do
  let plain ← withoutUnderscores? Char.isDigit digits
  if plain.head? = some '-' then none
  let literal ← Literal.ofChars? plain
  if literal.fraction.isNone && literal.exponent.isNone then
    let size : Int := digitsValue literal.whole
    let value := if negative then -size else size
    if inBounds value then some (.int value) else none
  else if literal.overflows then none
  else some (.float (String.ofList (if negative then '-' :: plain else plain)))

/-- Reads a number after its sign, or the words for infinity and for no number. -/
def signed? (negative : Bool) (text : List Char) : Option Value :=
  if text = "inf".toList || text = "nan".toList then some (.float (String.ofList text))
  else decimal? negative text

/-- Reads a number. -/
def number? : List Char → Option Value
  | '+' :: rest => signed? false rest
  | '-' :: rest => signed? true rest
  | '0' :: 'x' :: rest => based? 16 rest
  | '0' :: 'o' :: rest => based? 8 rest
  | '0' :: 'b' :: rest => based? 2 rest
  | text => signed? false text

/-! ## Dates and times -/

/-- Reads a number of exactly `length` digits: its value and the text after it. -/
def fixedDigits? (length : Nat) (text : List Char) : Option (Nat × List Char) :=
  let digits := text.take length
  if digits.length = length && digits.all Char.isDigit then
    some (digitsValue digits, text.drop length)
  else none

/-- The text after the given character. -/
def after? (mark : Char) : List Char → Option (List Char)
  | [] => none
  | c :: rest => if c = mark then some rest else none

/-- The number of days in a month. -/
def daysIn (year month : Nat) : Nat :=
  if month = 2 then
    if year % 4 = 0 && (year % 100 ≠ 0 || year % 400 = 0) then 29 else 28
  else if month = 4 || month = 6 || month = 9 || month = 11 then 30
  else 31

/-- The text after a date. -/
def date? (text : List Char) : Option (List Char) := do
  let (year, text) ← fixedDigits? 4 text
  let (month, text) ← fixedDigits? 2 (← after? '-' text)
  let (day, text) ← fixedDigits? 2 (← after? '-' text)
  if 1 ≤ month && month ≤ 12 && 1 ≤ day && day ≤ daysIn year month then some text else none

/-- The text after the fraction of a second, if there is one. -/
def secondFraction? : List Char → Option (List Char)
  | '.' :: rest =>
    if (rest.takeWhile Char.isDigit).isEmpty then none else some (rest.dropWhile Char.isDigit)
  | text => some text

/-- The text after a time; the seconds may be left out. -/
def clock? (text : List Char) : Option (List Char) := do
  let (hour, text) ← fixedDigits? 2 text
  let (minute, text) ← fixedDigits? 2 (← after? ':' text)
  if hour > 23 || minute > 59 then none
  match text with
  | ':' :: rest => do
    let (second, rest) ← fixedDigits? 2 rest
    if second > 60 then none else secondFraction? rest
  | text => some text

/-- The text after an offset from universal time, if there is one. -/
def offset? : List Char → Option (List Char)
  | [] => some []
  | c :: rest =>
    if c = 'Z' || c = 'z' then some rest
    else if c = '+' || c = '-' then do
      let (hour, rest) ← fixedDigits? 2 rest
      let (minute, rest) ← fixedDigits? 2 (← after? ':' rest)
      if hour > 23 || minute > 59 then none else some rest
    else some (c :: rest)

/-- The whole text is a date, a time, or a date and a time with or without an offset. -/
def isTime (text : List Char) : Bool :=
  match date? text with
  | some [] => true
  | some (mark :: rest) =>
    (mark = 'T' || mark = 't' || mark = ' ') && (clock? rest).bind offset? = some []
  | none => clock? text = some []

/-! ## Any bare value -/

/-- The characters of bare values. -/
def isBare (c : Char) : Bool :=
  c.isAlphanum || c = '_' || c = '+' || c = '-' || c = '.' || c = ':'

/-- Splits off a bare value. A time may follow a date after one blank. -/
def spanBare (text : List Char) : List Char × List Char :=
  let first := text.takeWhile isBare
  match text.dropWhile isBare with
  | ' ' :: c :: rest =>
    if c.isDigit && date? first = some [] then
      let second := (c :: rest).takeWhile isBare
      (first ++ ' ' :: second, (c :: rest).dropWhile isBare)
    else (first, ' ' :: c :: rest)
  | rest => (first, rest)

/-- Reads a bare value: its value and the text after it. -/
def bare? (text : List Char) : Option (Value × List Char) :=
  let (written, rest) := spanBare text
  if written = "true".toList then some (.bool true, rest)
  else if written = "false".toList then some (.bool false, rest)
  else if isTime written then some (.time (String.ofList written), rest)
  else (number? written).map fun value => (value, rest)

end CorpusQuery.Toml
