/-
  CorpusQuery.Toml.Quoted

  The four kinds of TOML strings: basic strings, which have escapes, and
  literal strings, which have none, each on one line or on several.
-/
import CorpusQuery.Text.Hex
import CorpusQuery.Toml.Basic

namespace CorpusQuery.Toml

/-! ## Escapes -/

/-- The character of an escape that names it by letter. -/
def escaped? (c : Char) : Option Char :=
  if c = '"' then some '"'
  else if c = '\\' then some '\\'
  else if c = 'b' then some '\x08'
  else if c = 'e' then some '\x1b'
  else if c = 'f' then some '\x0c'
  else if c = 'n' then some '\n'
  else if c = 'r' then some '\r'
  else if c = 't' then some '\t'
  else none

/-- How many hexadecimal digits follow an escape that names a character by number. -/
def codeLength? (c : Char) : Option Nat :=
  if c = 'x' then some 2
  else if c = 'u' then some 4
  else if c = 'U' then some 8
  else none

/-- A number that stands for a character: surrogates and numbers beyond the last code point do
not. -/
def charOf? (code : Nat) : Option Char :=
  if code.isValidChar then some (Char.ofNat code) else none

/-- Reads what follows a backslash: the character meant and the text after it. -/
def escape? : List Char → Option (Char × List Char)
  | [] => none
  | c :: rest =>
    match codeLength? c with
    | some length =>
      if rest.length < length then none
      else do
        let code ← Text.hexNumber? (rest.take length)
        return (← charOf? code, rest.drop length)
    | none => (escaped? c).map fun d => (d, rest)

/-! ## Strings on one line -/

/-- Reads a basic string after its opening quote: its text and what follows its closing quote. -/
def basic? : Nat → List Char → Option (List Char × List Char)
  | 0, _ => none
  | _ + 1, [] => none
  | fuel + 1, c :: rest =>
    if c = '"' then some ([], rest)
    else if c = '\\' then do
      let (d, rest) ← escape? rest
      let (text, rest) ← basic? fuel rest
      return (d :: text, rest)
    else if isPlain c then do
      let (text, rest) ← basic? fuel rest
      return (c :: text, rest)
    else none

/-- Reads a literal string after its opening quote. -/
def literal? (text : List Char) : Option (List Char × List Char) :=
  let inside := fun c => isPlain c && c ≠ '\''
  match text.dropWhile inside with
  | '\'' :: rest => some (text.takeWhile inside, rest)
  | _ => none

/-! ## Strings on several lines -/

/-- Splits at the closing quotes of a string on several lines, if the text begins with them: up to
two more quotes before them belong to the string. -/
def closing? (quote : Char) (text : List Char) : Option (List Char × List Char) :=
  -- Three quotes close the string; of a longer run the first one or two are text.
  let run := (text.takeWhile (· = quote)).length
  if run < 3 then none
  else some (List.replicate (min (run - 3) 2) quote, text.drop (min run 5))

/-- The text after blanks and line ends. -/
def skipBlankLines : Nat → List Char → List Char
  | 0, text => text
  | fuel + 1, text =>
    let rest := skipSpaces text
    match afterNewline? rest with
    | some rest => skipBlankLines fuel rest
    | none => rest

/-- The text after a backslash that ends a line: the line end and all blanks after it vanish. -/
def afterLineEnd? (fuel : Nat) (text : List Char) : Option (List Char) :=
  (afterNewline? (skipSpaces text)).map (skipBlankLines fuel)

/-- Reads a string on several lines after its opening quotes; only a basic one has escapes. -/
def lines? (quote : Char) (escapes : Bool) : Nat → List Char → Option (List Char × List Char)
  | 0, _ => none
  | fuel + 1, text =>
    match closing? quote text with
    | some (last, rest) => some (last, rest)
    | none =>
      match afterNewline? text with
      | some rest => do
        let (later, rest) ← lines? quote escapes fuel rest
        return ('\n' :: later, rest)
      | none =>
        match text with
        | [] => none
        | c :: rest =>
          if c = '\\' && escapes then
            match afterLineEnd? fuel rest with
            | some rest => lines? quote escapes fuel rest
            | none => do
              let (d, rest) ← escape? rest
              let (later, rest) ← lines? quote escapes fuel rest
              return (d :: later, rest)
          else if isPlain c then do
            let (later, rest) ← lines? quote escapes fuel rest
            return (c :: later, rest)
          else none

/-- Reads a string on several lines; a line end right after the opening quotes does not count. -/
def linesAfterOpening? (quote : Char) (escapes : Bool) (text : List Char) :
    Option (List Char × List Char) :=
  lines? quote escapes (text.length + 1) ((afterNewline? text).getD text)

/-! ## Any string -/

/-- Reads a string of whatever kind; `none` if the text does not begin with one. -/
def string? : List Char → Option (List Char × List Char)
  | '"' :: '"' :: '"' :: rest => linesAfterOpening? '"' true rest
  | '"' :: rest => basic? (rest.length + 1) rest
  | '\'' :: '\'' :: '\'' :: rest => linesAfterOpening? '\'' false rest
  | '\'' :: rest => literal? rest
  | _ => none

/-- Reads a quoted key, which has to stand on one line. -/
def quotedKey? : List Char → Option (List Char × List Char)
  | '"' :: rest => basic? (rest.length + 1) rest
  | '\'' :: rest => literal? rest
  | _ => none

end CorpusQuery.Toml
