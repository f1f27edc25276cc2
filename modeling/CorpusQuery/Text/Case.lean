/-
  CorpusQuery.Text.Case

  Full case mapping of texts by the rules of the Unicode standard. Lower case
  depends on context for one letter only: a capital sigma that ends a word
  becomes the final form.
-/
import CorpusQuery.Text.Blank
import CorpusQuery.Text.CaseTable

namespace CorpusQuery.Text

/-! ## Properties of characters -/

/-- Lower, upper and title case letters. -/
def isCased (c : Char) : Bool :=
  inRanges casedRanges c

/-- Characters that a search for the neighbouring letter passes over. -/
def isCaseIgnorable (c : Char) : Bool :=
  inRanges caseIgnorableRanges c

/-! ## Lower case -/

/-- The lower case form of one character, apart from its context. -/
def lowerChar (c : Char) : List Char :=
  if c = '\u0130' then ['i', '\u0307'] else [Char.ofNat (shiftBy lowerRuns c.toNat)]

/-- The first character that is not passed over is a letter with case. -/
def meetsCased (text : List Char) : Bool :=
  match text.dropWhile isCaseIgnorable with
  | [] => false
  | c :: _ => isCased c

/-- The lower case form of a capital sigma between the text `before` it, nearest character first,
and the text `after` it: final if a letter precedes and none follows. -/
def lowerSigma (before after : List Char) : Char :=
  if meetsCased before && !meetsCased after then 'ς' else 'σ'

/-- The lower case form of `text` where `before` precedes it, nearest character first. -/
def lowerAfter (before : List Char) : List Char → List Char
  | [] => []
  | c :: rest =>
    (if c = 'Σ' then [lowerSigma before rest] else lowerChar c) ++ lowerAfter (c :: before) rest

/-- The lower case form of a text. -/
def lower (text : List Char) : List Char :=
  lowerAfter [] text

/-! ## Upper case -/

/-- The upper case form of one character. -/
def upperChar (c : Char) : List Char :=
  match upperExpansions.lookup c.toNat with
  | some codes => codes.map Char.ofNat
  | none => [Char.ofNat (shiftBy upperRuns c.toNat)]

/-- The upper case form of a text. -/
def upper (text : List Char) : List Char :=
  text.flatMap upperChar

end CorpusQuery.Text
