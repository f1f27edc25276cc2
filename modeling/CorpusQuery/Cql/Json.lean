/-
  CorpusQuery.Cql.Json

  The JSON form of CQL trees. Optional parts are left out where they are
  absent, and null stands for an absent text.

  The tool reads some further spellings that nothing writes and that are left
  out here: an array of the fields in order in place of an object, a number in
  place of the word for a kind, and an object with a word as its one name and
  null as its value in place of the word.
-/
import CorpusQuery.Cql.Basic
import CorpusQuery.Json.Field

namespace CorpusQuery.Cql

open Json (text? optionalText? list? optionalMember listMember)

/-! ## Writing -/

/-- The JSON form of a modifier. -/
def Modifier.toJson (modifier : Modifier) : Json :=
  .obj (("name", .str modifier.name) :: optionalMember "comparison" modifier.comparison
    ++ optionalMember "value" modifier.value)

/-- The JSON form of an operator. -/
def Operator.toJson (operator : Operator) : Json :=
  .obj (("value", .str operator.value.word)
    :: listMember "modifiers" (operator.modifiers.map Modifier.toJson))

/-- The JSON form of a query. -/
def Node.toJson : Node → Json
  | .triple operator left right =>
    .obj [("type", .str "triple"), ("operator", operator.toJson), ("left", left.toJson),
      ("right", right.toJson)]
  | .searchClause index relation term =>
    .obj (("type", .str "search_clause") :: optionalMember "index" index
      ++ optionalMember "relation" relation ++ [("term", .str term)])

/-! ## Reading -/

/-- Reads a modifier. -/
def Modifier.ofJson? (value : Json) : Option Modifier := do
  let name ← text? value "name"
  let comparison ← optionalText? value "comparison"
  let text ← optionalText? value "value"
  return ⟨name, comparison, text⟩

/-- Reads an operator. -/
def Operator.ofJson? (value : Json) : Option Operator := do
  let word ← text? value "value"
  let boolean ← Boolean.ofWord? word
  let items ← list? value "modifiers"
  let modifiers ← items.mapM Modifier.ofJson?
  return ⟨boolean, modifiers⟩

/-- Reads a query. The whole tree has to be well formed. -/
def Node.ofJson? (value : Json) : Option Node :=
  match text? value "type" with
  | some "triple" => do
    let operator ← (value.get? "operator").bind Operator.ofJson?
    let ⟨left, _⟩ ← value.part? "left"
    let ⟨right, _⟩ ← value.part? "right"
    return .triple operator (← Node.ofJson? left) (← Node.ofJson? right)
  | some "search_clause" => do
    let index ← optionalText? value "index"
    let relation ← optionalText? value "relation"
    let term ← text? value "term"
    return .searchClause index relation term
  | _ => none
termination_by sizeOf value

end CorpusQuery.Cql
