/-
  CorpusQuery.Text.Quote

  Texts between double quotes, as they are shown in log lines: every character
  that a reader could not see or not tell apart is escaped.
-/
import CorpusQuery.Text.Blank
import CorpusQuery.Text.EscapeTable

namespace CorpusQuery.Text

/-- A character between quotes. What has no sign of its own is written by its number, apart from
the few control characters that have a letter. -/
def escapeChar (c : Char) : List Char :=
  if c = '"' then ['\\', '"']
  else if c = '\\' then ['\\', '\\']
  else if c = '\x00' then ['\\', '0']
  else if c = '\t' then ['\\', 't']
  else if c = '\n' then ['\\', 'n']
  else if c = '\r' then ['\\', 'r']
  else if inRanges escapedRanges c then
    '\\' :: 'u' :: '{' :: Nat.toDigits 16 c.toNat ++ ['}']
  else [c]

/-- A text between quotes. -/
def quote (text : String) : String :=
  String.ofList ('"' :: text.toList.flatMap escapeChar ++ ['"'])

example : quote "d\"or\n" = "\"d\\\"or\\n\"" := by decide +kernel

end CorpusQuery.Text
