/-
  CorpusQuery.Json.Printer

  The two written forms of a JSON value: compact, without any blank, and
  indented by two blanks a level. Members are written in the order given.
-/
import CorpusQuery.Json.Number
import CorpusQuery.Text.Hex

namespace CorpusQuery.Json

/-! ## Strings -/

/-- How a character is written inside a string: quotes, backslashes and control characters below
U+0020 are escaped, all else stands for itself. -/
def escapeChar (c : Char) : List Char :=
  if c = '"' then ['\\', '"']
  else if c = '\\' then ['\\', '\\']
  else if c = '\x08' then ['\\', 'b']
  else if c = '\x0c' then ['\\', 'f']
  else if c = '\n' then ['\\', 'n']
  else if c = '\r' then ['\\', 'r']
  else if c = '\t' then ['\\', 't']
  else if c.toNat < 0x20 then
    ['\\', 'u', '0', '0', Text.hexDigit (c.toNat / 16), Text.hexDigit (c.toNat % 16)]
  else [c]

/-- A string between quotes. -/
def quote (text : String) : List Char :=
  '"' :: text.toList.flatMap escapeChar ++ ['"']

/-! ## Compact form -/

mutual

/-- The compact form of a value. -/
def compactChars : Json → List Char
  | .null => "null".toList
  | .bool true => "true".toList
  | .bool false => "false".toList
  | .number n => n.toChars
  | .str text => quote text
  | .arr items => '[' :: compactItems items ++ [']']
  | .obj members => '{' :: compactMembers members ++ ['}']

/-- Items with commas between them. -/
def compactItems : List Json → List Char
  | [] => []
  | [item] => compactChars item
  | item :: next :: rest => compactChars item ++ ',' :: compactItems (next :: rest)

/-- Members with commas between them. -/
def compactMembers : List (String × Json) → List Char
  | [] => []
  | [(key, value)] => quote key ++ ':' :: compactChars value
  | (key, value) :: next :: rest =>
    quote key ++ ':' :: compactChars value ++ ',' :: compactMembers (next :: rest)

end

theorem compactChars_arr (items : List Json) :
    compactChars (.arr items) = '[' :: compactItems items ++ [']'] := rfl

theorem compactChars_obj (members : List (String × Json)) :
    compactChars (.obj members) = '{' :: compactMembers members ++ ['}'] := rfl

theorem compactItems_cons_cons (item next : Json) (rest : List Json) :
    compactItems (item :: next :: rest) =
      compactChars item ++ ',' :: compactItems (next :: rest) := rfl

theorem compactMembers_singleton (key : String) (value : Json) :
    compactMembers [(key, value)] = quote key ++ ':' :: compactChars value := rfl

theorem compactMembers_cons_cons (key : String) (value : Json) (next : String × Json)
    (rest : List (String × Json)) :
    compactMembers ((key, value) :: next :: rest) =
      quote key ++ ':' :: compactChars value ++ ',' :: compactMembers (next :: rest) := rfl

/-- A value written without blanks. -/
def compact (value : Json) : String :=
  String.ofList (compactChars value)

/-! ## Indented form -/

/-- A line end followed by the blanks of an indentation level. -/
def newline (level : Nat) : List Char :=
  '\n' :: List.replicate (2 * level) ' '

mutual

/-- The indented form of a value whose first line stands at `level`. -/
def prettyChars (level : Nat) : Json → List Char
  | .arr [] => ['[', ']']
  | .arr (item :: rest) =>
    '[' :: newline (level + 1) ++ prettyItems (level + 1) (item :: rest) ++ newline level ++ [']']
  | .obj [] => ['{', '}']
  | .obj (member :: rest) =>
    '{' :: newline (level + 1) ++ prettyMembers (level + 1) (member :: rest)
      ++ newline level ++ ['}']
  | .null => "null".toList
  | .bool true => "true".toList
  | .bool false => "false".toList
  | .number n => n.toChars
  | .str text => quote text

/-- Items, each on a line of its own. -/
def prettyItems (level : Nat) : List Json → List Char
  | [] => []
  | [item] => prettyChars level item
  | item :: next :: rest =>
    prettyChars level item ++ ',' :: newline level ++ prettyItems level (next :: rest)

/-- Members, each on a line of its own. -/
def prettyMembers (level : Nat) : List (String × Json) → List Char
  | [] => []
  | [(key, value)] => quote key ++ ':' :: ' ' :: prettyChars level value
  | (key, value) :: next :: rest =>
    quote key ++ ':' :: ' ' :: prettyChars level value ++ ',' :: newline level
      ++ prettyMembers level (next :: rest)

end

/-- A value written over several lines. -/
def pretty (value : Json) : String :=
  String.ofList (prettyChars 0 value)

end CorpusQuery.Json
