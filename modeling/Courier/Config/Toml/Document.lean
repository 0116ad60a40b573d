import Courier.Config.Toml.Date
import Courier.Config.Value

/-! # Documents in TOML

A document is a tree of tables. A key may be set once, a table may have one
header, and keys with points reach only into tables that such keys have made.
A header may name a table that headers of tables below it have made on their
way. A table whose first key has a certain name is read as a date.
-/

namespace Courier.Config.Toml

/-- How a table came about. -/
inductive Origin where
  /-- It has a header of its own. -/
  | header
  /-- It lies on the way of a header to a table below. -/
  | passage
  /-- It lies on the way of a key with points. -/
  | points
  deriving DecidableEq, Repr

inductive Node where
  /-- A value without parts that is no date. -/
  | leaf (v : Value)
  | date (text : String)
  | array (items : List Node)
  /-- A table in braces, which is complete. -/
  | inline (entries : List (String × Node))
  | table (origin : Origin) (entries : List (String × Node))
  /-- Tables that have one header each, under the same name. -/
  | tables (items : List (List (String × Node)))

abbrev Entries := Named Node

namespace Entries

/-- A table whose first key has this name stands for a date. -/
def dateKey : String := "$__toml_private_datetime"

/-- The value of a table with these entries, whose values are given; there is
none if the table stands for a date that cannot be read. -/
def value? (entries : List (String × Node)) (values : Option (List (String × Value))) :
    Option Value :=
  match entries with
  | (name, node) :: _ =>
      if name = dateKey then
        match node with
        | .leaf (.string s) =>
            (readMoment? .quoted s.toList).map fun cs => .string (String.ofList cs)
        | _ => none
      else values.map .table
  | [] => values.map .table

end Entries

mutual

def Node.toValue? : Node → Option Value
  | .leaf v => some v
  | .date text => some (.string text)
  | .array items => (nodeValues? items).map .array
  | .inline entries => Entries.value? entries (entryValues? entries)
  | .table _ entries => Entries.value? entries (entryValues? entries)
  | .tables items => (itemValues? items).map .array

def entryValues? : List (String × Node) → Option (List (String × Value))
  | [] => some []
  | (name, node) :: rest => do
      let v ← node.toValue?
      return (name, v) :: (← entryValues? rest)

def nodeValues? : List Node → Option (List Value)
  | [] => some []
  | node :: rest => do
      let v ← node.toValue?
      return v :: (← nodeValues? rest)

def itemValues? : List (List (String × Node)) → Option (List Value)
  | [] => some []
  | entries :: rest => do
      let v ← Entries.value? entries (entryValues? entries)
      return v :: (← itemValues? rest)

end

namespace Entries

/-- Changes the table at the end of a way, and makes the tables on the way
that are missing. Of several tables with one name the last is entered. -/
def changeAt? (way : Origin) (change : Origin → Entries → Option Entries) :
    List String → Origin → Entries → Option Entries
  | [], origin, entries => change origin entries
  | name :: rest, _, entries =>
      match entries.get? name with
      | none =>
          (changeAt? way change rest way []).map fun below =>
            entries.set name (.table way below)
      | some (.table origin below) =>
          if way = .points ∧ origin = .header then none
          else (changeAt? way change rest origin below).map fun below =>
            entries.set name (.table origin below)
      | some (.tables items) => do
          let below ← changeAt? way change rest .header (← items.getLast?)
          return entries.set name (.tables (items.dropLast ++ [below]))
      | some (.leaf _) => none
      | some (.date _) => none
      | some (.array _) => none
      | some (.inline _) => none

/-- Sets a key for the first time. -/
def assign? (entries : Entries) (names : List String) (node : Node) : Option Entries := do
  let key ← names.getLast?
  let put (origin : Origin) (entries : Entries) : Option Entries :=
    if (names.length = 1 ∨ origin = .points) ∧ (entries.get? key).isNone then
      some (entries.set key node)
    else none
  changeAt? .points put names.dropLast .header entries

/-- Gives a table its header; it is the last of its neighbours then. -/
def addTable? (entries : Entries) (names : List String) : Option Entries := do
  let key ← names.getLast?
  let put (_ : Origin) (entries : Entries) : Option Entries :=
    match entries.get? key with
    | none => some (entries.set key (.table .header []))
    | some (.table .passage below) =>
        some (entries.filter (·.1 ≠ key) ++ [(key, .table .header below)])
    | some _ => none
  changeAt? .passage put names.dropLast .header entries

/-- Adds a table to those that share a name. -/
def addItem? (entries : Entries) (names : List String) : Option Entries := do
  let key ← names.getLast?
  let put (_ : Origin) (entries : Entries) : Option Entries :=
    match entries.get? key with
    | none => some (entries.set key (.tables [[]]))
    | some (.tables items) => some (entries.set key (.tables (items ++ [[]])))
    | some _ => none
  changeAt? .passage put names.dropLast .header entries

/-- A table whose keys are set one after another. -/
def ofPairs? (pairs : List (List String × Node)) : Option Entries :=
  pairs.foldlM (fun entries (names, node) => entries.assign? names node) []

end Entries

/-- What stands on a line, apart from blanks and comments. -/
inductive Statement where
  | table (names : List String)
  | item (names : List String)
  | assignment (names : List String) (node : Node)

structure Document where
  root : Entries
  /-- The table to which keys belong. -/
  current : List String

namespace Document

def empty : Document := ⟨[], []⟩

def add? (d : Document) : Statement → Option Document
  | .table names => (d.root.addTable? names).map (⟨·, names⟩)
  | .item names => (d.root.addItem? names).map (⟨·, names⟩)
  | .assignment names node =>
      (Entries.changeAt? .passage (fun _ entries => entries.assign? names node) d.current .header
        d.root).map (⟨·, d.current⟩)

/-- The values of a document whose root is a table. -/
def values? (d : Document) : Option (List (String × Value)) :=
  match Entries.value? d.root (entryValues? d.root) with
  | some (.table ms) => some ms
  | _ => none

end Document

end Courier.Config.Toml
