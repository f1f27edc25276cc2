/-
  CorpusQuery.Text.Blank

  Blank characters (Unicode White_Space), trimming at both ends, and the words
  of a text: its maximal runs of characters that are not blank.
-/

namespace CorpusQuery.Text

/-! ## Blank characters -/

/-- Inclusive code point ranges of the Unicode property White_Space. -/
def blankRanges : List (Nat × Nat) :=
  [(0x09, 0x0D), (0x20, 0x20), (0x85, 0x85), (0xA0, 0xA0), (0x1680, 0x1680), (0x2000, 0x200A),
   (0x2028, 0x2029), (0x202F, 0x202F), (0x205F, 0x205F), (0x3000, 0x3000)]

/-- Holds of a character whose code point lies in one of the ranges. -/
def inRanges (ranges : List (Nat × Nat)) (c : Char) : Bool :=
  ranges.any fun range => range.1 ≤ c.toNat && c.toNat ≤ range.2

/-- A blank character separates words. -/
def isBlank (c : Char) : Bool :=
  inRanges blankRanges c

/-! ## Trimming -/

/-- The text without the leading and trailing characters that `drop` selects. -/
def trimWhere (drop : Char → Bool) (text : List Char) : List Char :=
  ((text.dropWhile drop).reverse.dropWhile drop).reverse

/-- The text without leading and trailing blanks. -/
def trim (text : List Char) : List Char :=
  trimWhere isBlank text

/-- The text without its trailing blanks. -/
def trimEnd (text : List Char) : List Char :=
  (text.reverse.dropWhile isBlank).reverse

/-! ## Words -/

/-- The pieces between blanks, the empty ones included: `n` blanks give `n + 1` pieces. -/
def pieces : List Char → List (List Char)
  | [] => [[]]
  | c :: rest =>
    if isBlank c then [] :: pieces rest
    else match pieces rest with
      | [] => [[c]]
      | piece :: later => (c :: piece) :: later

/-- The words of a text, in order: its pieces that are not empty. -/
def words (text : List Char) : List (List Char) :=
  (pieces text).filter fun piece => !piece.isEmpty

end CorpusQuery.Text
