/-
  CorpusQuery.Toml.Reader

  Reading TOML documents. A document is a list of statements, which say one
  after the other what the tables hold.
-/
import CorpusQuery.Toml.Bare
import CorpusQuery.Toml.Quoted
import CorpusQuery.Toml.Table

namespace CorpusQuery.Toml

/-! ## Keys -/

/-- Reads one part of a key. -/
def keyPart? (text : List Char) : Option (String × List Char) :=
  match quotedKey? text with
  | some (name, rest) => some (String.ofList name, rest)
  | none =>
    let name := text.takeWhile isKeyChar
    if name.isEmpty then none else some (String.ofList name, text.dropWhile isKeyChar)

/-- The most parts that a key may have. -/
def partsLimit : Nat := 80

/-- Reads the further parts of a dotted key, fewer than the number given, with blanks around the
dots. -/
def keyParts? : Nat → List Char → Option (List String × List Char)
  | 0, _ => none
  | fuel + 1, text =>
    match skipSpaces text with
    | '.' :: rest => do
      let (name, rest) ← keyPart? (skipSpaces rest)
      let (names, rest) ← keyParts? fuel rest
      return (name :: names, rest)
    | rest => some ([], rest)

/-- Reads a key: its first part, its further parts, and the text after it and after blanks. -/
def key? (text : List Char) : Option (String × List String × List Char) := do
  let (name, rest) ← keyPart? text
  let (names, rest) ← keyParts? partsLimit rest
  return (name, names, rest)

/-! ## Values -/

/-- The deepest nesting of arrays and tables that is read inside one value. -/
def nestingLimit : Nat := 80

mutual

/-- Reads a value with at most `depth` levels of brackets. -/
def value? : Nat → Nat → List Char → Option (Value × List Char)
  | 0, _, _ => none
  | fuel + 1, depth, '[' :: rest =>
    match depth with
    | 0 => none
    | depth + 1 => items? fuel depth [] rest
  | fuel + 1, depth, '{' :: rest =>
    match depth with
    | 0 => none
    | depth + 1 => pairs? fuel depth [] rest
  | _ + 1, _, text =>
    match text with
    | '"' :: _ => (string? text).map fun (value, rest) => (.str (String.ofList value), rest)
    | '\'' :: _ => (string? text).map fun (value, rest) => (.str (String.ofList value), rest)
    | _ => bare? text

/-- Reads items up to the bracket that closes an array, with blanks, line ends and comments between
them; those read before are given latest first. -/
def items? : Nat → Nat → List Value → List Char → Option (Value × List Char)
  | 0, _, _, _ => none
  | fuel + 1, depth, read, text =>
    match skipLines text.length text with
    | ']' :: rest => some (.arr read.reverse, rest)
    | start => do
      let (value, rest) ← value? fuel depth start
      match skipLines rest.length rest with
      | ',' :: rest => items? fuel depth (value :: read) rest
      | ']' :: rest => some (.arr (value :: read).reverse, rest)
      | _ => none

/-- Reads pairs up to the brace that closes a table, also after a comma. Blanks, line ends and
comments may stand around keys and values. -/
def pairs? : Nat → Nat → Entries → List Char → Option (Value × List Char)
  | 0, _, _, _ => none
  | fuel + 1, depth, entries, text =>
    match skipLines text.length text with
    | '}' :: rest => some (.table (finishEntries entries), rest)
    | start => do
      let (name, names, rest) ← key? start
      let rest ← after? '=' (skipLines rest.length rest)
      let (value, rest) ← value? fuel depth (skipLines rest.length rest)
      let entries ← entries.assign? value name names
      match skipLines rest.length rest with
      | ',' :: rest => pairs? fuel depth entries rest
      | '}' :: rest => some (.table (finishEntries entries), rest)
      | _ => none

end

/-! ## Statements -/

/-- A statement of a document. -/
inductive Statement where
  /-- a key has a value in the table of the last header -/
  | assign (name : String) (names : List String) (value : Value)
  /-- a header of a table -/
  | table (path : List String) (name : String)
  /-- a header of a further table of several -/
  | nextTable (path : List String) (name : String)
  deriving Repr

/-- A dotted key split into the path to its last part and that part. -/
def splitLast (name : String) : List String → List String × String
  | [] => ([], name)
  | next :: names =>
    let (path, last) := splitLast next names
    (name :: path, last)

/-- Reads a header after its opening brackets, of which there are `brackets`. -/
def header? (brackets : Nat) (text : List Char) : Option (List String × String × List Char) := do
  let (name, names, rest) ← key? (skipSpaces text)
  let (path, last) := splitLast name names
  if rest.take brackets = List.replicate brackets ']' then
    some (path, last, rest.drop brackets)
  else none

/-- Reads a statement. -/
def statement? : List Char → Option (Statement × List Char)
  | '[' :: '[' :: rest => do
    let (path, name, rest) ← header? 2 rest
    return (.nextTable path name, rest)
  | '[' :: rest => do
    let (path, name, rest) ← header? 1 rest
    return (.table path name, rest)
  | text => do
    let (name, names, rest) ← key? text
    let rest ← after? '=' rest
    let (value, rest) ← value? (rest.length + 1) nestingLimit (skipSpaces rest)
    return (.assign name names value, rest)

/-- Reads the statements of a document, one a line. -/
def statements? : Nat → List Char → Option (List Statement)
  | 0, _ => none
  | fuel + 1, text =>
    match skipLines text.length text with
    | [] => some []
    | start => do
      let (statement, rest) ← statement? start
      let rest ← endLine? rest
      let later ← statements? fuel rest
      return statement :: later

/-! ## Documents -/

/-- A document under construction: its tables and the path of the last header. -/
structure Document where
  entries : Entries
  current : List String
  deriving Repr

/-- Adds what a statement says. -/
def Document.add? (document : Document) : Statement → Option Document
  | .assign name names value => do
    let entries ← document.entries.change (Entries.assign? value name names) document.current
    return { document with entries := entries }
  | .table path name => do
    let entries ← document.entries.change (Entries.open? name) path
    return ⟨entries, path ++ [name]⟩
  | .nextTable path name => do
    let entries ← document.entries.change (Entries.openNext? name) path
    return ⟨entries, path ++ [name]⟩

/-- The text without a byte order mark. -/
def withoutMark : List Char → List Char
  | '\uFEFF' :: rest => rest
  | text => text

/-- Reads a document: the entries of its root table. -/
def parse (text : String) : Option (List (String × Value)) := do
  let text := withoutMark text.toList
  let statements ← statements? (text.length + 1) text
  let document ← statements.foldlM Document.add? ⟨[], []⟩
  return finishEntries document.entries

end CorpusQuery.Toml
