/-
  CorpusQuery.Toml.Table

  TOML tables under construction. How a table came about decides how it may
  grow: a table that only lies on the way to another may still get a header,
  a table made by dotted keys may get more dotted keys, and nothing is defined
  twice.
-/
import CorpusQuery.Toml.Basic

namespace CorpusQuery.Toml

/-- How a table came about. -/
inductive Origin where
  /-- it lies on the way to a table that has a header -/
  | implied
  /-- it has a header -/
  | header
  /-- it lies on the way to a dotted key -/
  | dotted
  deriving DecidableEq, Repr

/-- What a name stands for in a table under construction. -/
inductive Entry where
  | value (value : Value)
  | table (origin : Origin) (entries : List (String × Entry))
  /-- tables that share a header, the latest last -/
  | tables (earlier : List (List (String × Entry))) (latest : List (String × Entry))
  deriving Repr

/-- A table under construction: its entries in the order written. -/
abbrev Entries := List (String × Entry)

namespace Entries

/-- Puts `entry` in the place of the entry called `name`. -/
def replace (name : String) (entry : Entry) (entries : Entries) : Entries :=
  entries.map fun (key, old) => if key = name then (key, entry) else (key, old)

/-- Changes the table that a path of headers leads to; tables on the way come about as needed, and
of tables that share a header the latest is meant. -/
def change (update : Entries → Option Entries) : List String → Entries → Option Entries
  | [], entries => update entries
  | name :: path, entries =>
    match entries.lookup name with
    | none => do
      let inner ← change update path []
      return entries ++ [(name, .table .implied inner)]
    | some (.table origin inner) => do
      let inner ← change update path inner
      return entries.replace name (.table origin inner)
    | some (.tables earlier latest) => do
      let latest ← change update path latest
      return entries.replace name (.tables earlier latest)
    | some (.value _) => none

/-- Defines a table by a header in the table around it. -/
def open? (name : String) (entries : Entries) : Option Entries :=
  match entries.lookup name with
  | none => some (entries ++ [(name, .table .header [])])
  | some (.table .implied inner) => some (entries.replace name (.table .header inner))
  | some _ => none

/-- Adds a table to those that share a header. -/
def openNext? (name : String) (entries : Entries) : Option Entries :=
  match entries.lookup name with
  | none => some (entries ++ [(name, .tables [] [])])
  | some (.tables earlier latest) =>
    some (entries.replace name (.tables (earlier ++ [latest]) []))
  | some _ => none

/-- Gives a dotted key its value. The tables on the way have to be new, made by dotted keys, or
merely passed on the way to such a one; of tables that share a header the latest is meant. -/
def assign? (value : Value) (name : String) : List String → Entries → Option Entries
  | [], entries =>
    match entries.lookup name with
    | none => some (entries ++ [(name, .value value)])
    | some _ => none
  | next :: path, entries =>
    match entries.lookup name with
    | none => do
      let inner ← assign? value next path []
      return entries ++ [(name, .table .dotted inner)]
    | some (.table .dotted inner) => do
      let inner ← assign? value next path inner
      return entries.replace name (.table .dotted inner)
    | some (.table .implied inner) => do
      -- A last part right below would give an entry to a table that only a header may fill.
      if path.isEmpty then none
      let inner ← assign? value next path inner
      return entries.replace name (.table .implied inner)
    | some (.tables earlier latest) => do
      if path.isEmpty then none
      let latest ← assign? value next path latest
      return entries.replace name (.tables earlier latest)
    | some _ => none

end Entries

mutual

/-- The value of an entry. -/
def Entry.finish : Entry → Value
  | .value value => value
  | .table _ entries => .table (finishEntries entries)
  | .tables earlier latest => .arr (finishTables earlier ++ [.table (finishEntries latest)])

/-- The values of entries. -/
def finishEntries : List (String × Entry) → List (String × Value)
  | [] => []
  | (name, entry) :: rest => (name, entry.finish) :: finishEntries rest

/-- The values of tables. -/
def finishTables : List (List (String × Entry)) → List Value
  | [] => []
  | entries :: rest => .table (finishEntries entries) :: finishTables rest

end

end CorpusQuery.Toml
