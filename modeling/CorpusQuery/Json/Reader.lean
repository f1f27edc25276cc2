/-
  CorpusQuery.Json.Reader

  Strict reading of JSON text, one character after the other. A reader is a
  scanner, which knows the token it stands in, over an assembly of the tokens
  before it. Text is refused if it holds a byte order mark, a lone surrogate
  escape, a raw control character in a string, a number beyond the range of
  binary64, anything after the value, or deeper nesting than allowed.
-/
import CorpusQuery.Json.Assembly
import CorpusQuery.Json.Number
import CorpusQuery.Text.Hex

namespace CorpusQuery.Json

/-! ## Scanning -/

/-- Where a scanner stands. Characters read of a token are kept latest first. -/
inductive Scan where
  /-- between tokens -/
  | between
  /-- in a number or a word -/
  | bare (read : List Char)
  /-- in a string -/
  | text (read : List Char)
  /-- after a backslash in a string -/
  | escape (read : List Char)
  /-- in a four digit escape that lacks `missing` digits, perhaps after a leading surrogate -/
  | code (read : List Char) (lead : Option Nat) (missing : Nat) (soFar : Nat)
  /-- after a leading surrogate, before the backslash of its partner -/
  | partner (read : List Char) (lead : Nat)
  /-- after a leading surrogate and a backslash -/
  | partnerMark (read : List Char) (lead : Nat)
  deriving DecidableEq, Repr

/-- The four characters that may stand between tokens. -/
def isSpace (c : Char) : Bool :=
  c = ' ' || c = '\n' || c = '\r' || c = '\t'

/-- The characters of numbers and words. -/
def isBare (c : Char) : Bool :=
  c.isAlphanum || c = '-' || c = '+' || c = '.'

/-- The token of a punctuation character. -/
def punctuation? (c : Char) : Option Token :=
  if c = '[' then some .openArray
  else if c = ']' then some .closeArray
  else if c = '{' then some .openObject
  else if c = '}' then some .closeObject
  else if c = ':' then some .colon
  else if c = ',' then some .comma
  else none

/-- The value of a number or a word. -/
def atomOf? (read : List Char) : Option Json :=
  if read = "null".toList then some .null
  else if read = "true".toList then some (.bool true)
  else if read = "false".toList then some (.bool false)
  else (Number.ofChars? read).map .number

/-- The character of an escape of one letter. -/
def escaped? (c : Char) : Option Char :=
  if c = '"' then some '"'
  else if c = '\\' then some '\\'
  else if c = '/' then some '/'
  else if c = 'b' then some '\x08'
  else if c = 'f' then some '\x0c'
  else if c = 'n' then some '\n'
  else if c = 'r' then some '\r'
  else if c = 't' then some '\t'
  else none

/-- Where the scanner stands after an escape with the code unit `unit`. A leading surrogate needs a
trailing one after it, and no trailing one may stand alone. -/
def afterCode (read : List Char) (lead : Option Nat) (unit : Nat) : Option Scan :=
  let isLead := 0xD800 ≤ unit && unit < 0xDC00
  let isTrail := 0xDC00 ≤ unit && unit < 0xE000
  match lead with
  | none =>
    if isLead then some (.partner read unit)
    else if isTrail then none
    else some (.text (Char.ofNat unit :: read))
  | some first =>
    if isTrail then
      some (.text (Char.ofNat (0x10000 + (first - 0xD800) * 0x400 + (unit - 0xDC00)) :: read))
    else none

/-! ## Reading -/

/-- A scanner over an assembly. -/
structure Reader where
  scan : Scan
  built : Assembly
  deriving Repr

namespace Reader

/-- A reader that has read nothing. -/
def start : Reader :=
  ⟨.between, .start⟩

/-- Reads a character between tokens. -/
def stepBetween (limit : Nat) (built : Assembly) (c : Char) : Option Reader :=
  if isSpace c then some ⟨.between, built⟩
  else if c = '"' then some ⟨.text [], built⟩
  else if isBare c then some ⟨.bare [c], built⟩
  else match punctuation? c with
    | some token => (built.add limit token).map fun built => ⟨.between, built⟩
    | none => none

/-- Ends the number or word read. -/
def endBare (limit : Nat) (built : Assembly) (read : List Char) : Option Assembly :=
  match atomOf? read.reverse with
  | some value => built.add limit (.atom value)
  | none => none

/-- Reads a character. -/
def step (limit : Nat) (reader : Reader) (c : Char) : Option Reader :=
  match reader.scan with
  | .between => stepBetween limit reader.built c
  | .bare read =>
    if isBare c then some { reader with scan := .bare (c :: read) }
    else match endBare limit reader.built read with
      | some built => stepBetween limit built c
      | none => none
  | .text read =>
    if c = '"' then
      (reader.built.add limit (.text (String.ofList read.reverse))).map fun built =>
        ⟨.between, built⟩
    else if c = '\\' then some { reader with scan := .escape read }
    else if c.toNat < 0x20 then none
    else some { reader with scan := .text (c :: read) }
  | .escape read =>
    if c = 'u' then some { reader with scan := .code read none 4 0 }
    else (escaped? c).map fun d => { reader with scan := .text (d :: read) }
  | .code read lead missing soFar =>
    match Text.hexValue? c with
    | some digit =>
      -- The unit is whole with its last digit; before that the scanner stays in the escape.
      let unit := 16 * soFar + digit
      if missing ≤ 1 then (afterCode read lead unit).map fun scan => { reader with scan := scan }
      else some { reader with scan := .code read lead (missing - 1) unit }
    | none => none
  | .partner read lead =>
    if c = '\\' then some { reader with scan := .partnerMark read lead } else none
  | .partnerMark read lead =>
    if c = 'u' then some { reader with scan := .code read (some lead) 4 0 } else none

/-- The value read, if the text may end here. -/
def finish (limit : Nat) (reader : Reader) : Option Json :=
  match reader.scan with
  | .between => reader.built.result?
  | .bare read => (endBare limit reader.built read).bind Assembly.result?
  | _ => none

end Reader

/-- The deepest nesting of arrays and objects that is read. -/
def depthLimit : Nat := 127

/-- Reads JSON text that nests at most `limit` arrays and objects. -/
def parseWithin (limit : Nat) (text : List Char) : Option Json :=
  (text.foldlM (Reader.step limit) Reader.start).bind (Reader.finish limit)

/-- Reads JSON text of the usual depth. -/
def parse (text : String) : Option Json :=
  parseWithin depthLimit text.toList

end CorpusQuery.Json
