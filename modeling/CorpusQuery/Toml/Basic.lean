/-
  CorpusQuery.Toml.Basic

  Values of TOML documents, and the character classes of TOML text.
-/

namespace CorpusQuery.Toml

/-! ## Values -/

/-- A TOML value. Floats and times are kept as they are written. -/
inductive Value where
  | str (value : String)
  | bool (value : Bool)
  | int (value : Int)
  | float (literal : String)
  | time (literal : String)
  | arr (items : List Value)
  | table (entries : List (String × Value))
  deriving Repr, BEq

/-! ## Characters -/

/-- The blanks inside a line. -/
def isSpace (c : Char) : Bool :=
  c = ' ' || c = '\t'

/-- The characters that may stand in comments and strings: all but the control characters, of
which only the tab may. -/
def isPlain (c : Char) : Bool :=
  c = '\t' || (0x20 ≤ c.toNat && c.toNat ≠ 0x7F)

/-- The characters of keys without quotes. -/
def isKeyChar (c : Char) : Bool :=
  c.isAlphanum || c = '-' || c = '_'

/-! ## Blanks and line ends -/

/-- The text after a line end; `none` if it does not begin with one. A carriage return counts only
before a line feed. -/
def afterNewline? : List Char → Option (List Char)
  | '\n' :: rest => some rest
  | '\r' :: '\n' :: rest => some rest
  | _ => none

/-- The text after its leading blanks. -/
def skipSpaces (text : List Char) : List Char :=
  text.dropWhile isSpace

/-- The text after a comment that it may begin with, up to the line end. -/
def skipComment (text : List Char) : List Char :=
  match text with
  | '#' :: rest => rest.dropWhile isPlain
  | _ => text

/-- The text after blanks, comments and line ends. -/
def skipLines : Nat → List Char → List Char
  | 0, text => text
  | fuel + 1, text =>
    let rest := skipComment (skipSpaces text)
    match afterNewline? rest with
    | some rest => skipLines fuel rest
    | none => rest

/-- The text after the end of a line: blanks, perhaps a comment, and a line end or the end of the
text; `none` if anything else follows. -/
def endLine? (text : List Char) : Option (List Char) :=
  match skipComment (skipSpaces text) with
  | [] => some []
  | rest => afterNewline? rest

end CorpusQuery.Toml
