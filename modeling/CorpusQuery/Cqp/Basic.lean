/-
  CorpusQuery.Cqp.Basic

  Queries of the corpus query processor, as far as the endpoint needs them: a
  list of token patterns. A pattern is free or constrains one attribute or two,
  and may say how often it repeats.
-/

namespace CorpusQuery.Cqp

/-! ## Patterns -/

/-- An attribute of a token. -/
inductive Attribute where
  | word
  | baseForm
  | pos
  deriving DecidableEq, Repr

/-- The flags of a regular expression: ignore case, take literally, ignore diacritics. -/
structure Flags where
  ignoreCase : Bool
  literal : Bool
  ignoreDiacritics : Bool
  deriving DecidableEq, Repr

/-- No flag. -/
def Flags.none : Flags :=
  ⟨false, false, false⟩

/-- A constraint on one attribute. A part of speech is one of several tags. -/
inductive Constraint where
  | word (negated : Bool) (regex : String) (flags : Flags)
  | baseForm (negated : Bool) (regex : String) (flags : Flags)
  | pos (negated : Bool) (tags : List String)
  deriving DecidableEq, Repr

/-- How often a token repeats. -/
structure Repetition where
  least : UInt32
  most : UInt32
  deriving DecidableEq, Repr

/-- A token pattern. -/
inductive Token where
  /-- a token that meets a constraint, without a repetition -/
  | plain (constraint : Constraint)
  /-- tokens that meet a constraint -/
  | repeated (constraint : Constraint) (times : Repetition)
  /-- a token that meets two constraints -/
  | both (left right : Constraint)
  /-- a token that meets one of two constraints -/
  | either (left right : Constraint)
  /-- any tokens -/
  | any (times : Repetition)
  deriving DecidableEq, Repr

/-! ## Text -/

/-- The name of an attribute. -/
def Attribute.name : Attribute → String
  | .word => "word"
  | .baseForm => "lemma"
  | .pos => "pos"

/-- The letters of the flags that are set, in their fixed order. -/
def Flags.letters (flags : Flags) : List Char :=
  (if flags.ignoreCase then ['c'] else []) ++ (if flags.literal then ['l'] else [])
    ++ (if flags.ignoreDiacritics then ['d'] else [])

/-- The flags as they follow a regular expression: nothing, or a blank, a percent sign and the
letters. -/
def Flags.suffix (flags : Flags) : List Char :=
  if flags.letters.isEmpty then [] else ' ' :: '%' :: flags.letters

/-- A text between single quotes. -/
def quoted (text : String) : List Char :=
  '\'' :: text.toList ++ ['\'']

/-- Tags as a regular expression: a tag by itself, or alternatives in parentheses. -/
def alternatives : List String → String
  | [tag] => tag
  | tags => "(" ++ String.intercalate "|" tags ++ ")"

/-- The sign that compares an attribute of one value. -/
def comparison (negated : Bool) : String :=
  if negated then "!=" else "="

/-- The words that compare an attribute of many values. -/
def containment (negated : Bool) : String :=
  if negated then "not contains" else "contains"

/-- A constraint as it stands between brackets. -/
def Constraint.chars : Constraint → List Char
  | .word negated regex flags =>
    "word ".toList ++ (comparison negated).toList ++ ' ' :: quoted regex ++ flags.suffix
  | .baseForm negated regex flags =>
    "lemma ".toList ++ (containment negated).toList ++ ' ' :: quoted regex ++ flags.suffix
  | .pos negated tags =>
    "pos ".toList ++ (comparison negated).toList ++ ' ' :: quoted (alternatives tags)

theorem Constraint.chars_word (negated : Bool) (regex : String) (flags : Flags) :
    (word negated regex flags).chars =
      "word ".toList ++ (comparison negated).toList ++ ' ' :: quoted regex ++ flags.suffix := rfl

theorem Constraint.chars_baseForm (negated : Bool) (regex : String) (flags : Flags) :
    (baseForm negated regex flags).chars =
      "lemma ".toList ++ (containment negated).toList ++ ' ' :: quoted regex ++ flags.suffix := rfl

theorem Constraint.chars_pos (negated : Bool) (tags : List String) :
    (pos negated tags).chars =
      "pos ".toList ++ (comparison negated).toList ++ ' ' :: quoted (alternatives tags) := rfl

/-- A repetition as it follows a bracket: a blank for exactly one token, else the number or the two
bounds in braces and a blank. -/
def Repetition.chars (times : Repetition) : List Char :=
  if times.least = 1 && times.most = 1 then [' ']
  else if times.least = times.most then
    '{' :: Nat.toDigits 10 times.least.toNat ++ ['}', ' ']
  else
    '{' :: Nat.toDigits 10 times.least.toNat ++ ',' :: Nat.toDigits 10 times.most.toNat
      ++ ['}', ' ']

/-- A token pattern. -/
def Token.chars : Token → List Char
  | .plain constraint => '[' :: constraint.chars ++ [']']
  | .repeated constraint times => '[' :: constraint.chars ++ ']' :: times.chars
  | .both left right => '[' :: left.chars ++ " & ".toList ++ right.chars ++ [']']
  | .either left right => '[' :: left.chars ++ " | ".toList ++ right.chars ++ [']']
  | .any times => ' ' :: '[' :: ']' :: times.chars

/-- The text of a query: its patterns one after the other. -/
def render (tokens : List Token) : String :=
  String.ofList (tokens.flatMap Token.chars)

theorem render_append (first later : List Token) :
    render (first ++ later) = render first ++ render later := by
  rw [render, List.flatMap_append, String.ofList_append]
  rfl

end CorpusQuery.Cqp
