import TableScript.Assoc
import TableScript.Storage.Cell
import TableScript.Value.Document

set_option autoImplicit false

namespace TableScript

namespace Sql

def quoteChars : List Char → List Char
  | [] => []
  | c :: cs => if c = '"' then '"' :: '"' :: quoteChars cs else c :: quoteChars cs

def quoteName (name : String) : List Char := '"' :: (quoteChars name.toList ++ ['"'])

def commaSeparated (items : List (List Char)) : List Char := List.intercalate [',', ' '] items

def placeholder (i : Nat) : List Char := '?' :: Nat.toDigits 10 (i + 1)

end Sql

inductive Statement where
  | create (table : String) (columns : List (String × String))
  | insert (table : String) (row : List (String × Cell))
  | select (table : String)
deriving DecidableEq, Repr

namespace Statement

open Sql

def chars : Statement → List Char
  | .create table columns =>
    "CREATE TABLE IF NOT EXISTS ".toList ++ quoteName table ++ " (".toList ++
      commaSeparated (columns.map fun (name, type) => quoteName name ++ ' ' :: type.toList) ++ [')']
  | .insert table row =>
    let columns := row.map (·.1)
    let values := row.map (·.2)
    if columns.isEmpty then "INSERT INTO ".toList ++ quoteName table ++ " DEFAULT VALUES".toList
    else
      "INSERT INTO ".toList ++ quoteName table ++ " (".toList ++
        commaSeparated (columns.map quoteName) ++ ") VALUES (".toList ++
        commaSeparated ((List.range values.length).map placeholder) ++ [')']
  | .select table => "SELECT * FROM ".toList ++ quoteName table

def text (s : Statement) : String := String.ofList s.chars

end Statement

structure Rows where
  columns : List String
  rows : List (List Value)

namespace Rows

def tupleChars : List Value → List Char
  | [v] => '(' :: (v.literalChars ++ [',', ')'])
  | row => '(' :: (Value.itemChars row ++ [')'])

def tuples (r : Rows) : List String := r.rows.map fun row => String.ofList (tupleChars row)

def rowJson (columns : List String) (row : List Value) : Json :=
  .object (Assoc.collect (columns.zip (row.map Value.toJson)))

def toJson (r : Rows) : Json := .array (r.rows.map (rowJson r.columns))

end Rows

structure StorageError where
  detail : String
deriving DecidableEq, Repr

def StorageError.message (e : StorageError) : String := "Database error: " ++ e.detail

/-- The answer to a query: each row gives a cell for each of the columns. -/
structure Selection where
  columns : List String
  rows : List (Fin columns.length → Cell)

namespace Selection

def cells (s : Selection) : List (List Cell) := s.rows.map List.ofFn

def toRows (s : Selection) : Rows := ⟨s.columns, s.cells.map fun row => row.map Cell.toValue⟩

theorem length_of_mem_rows (s : Selection) (row : List Value) (h : row ∈ s.toRows.rows) :
    row.length = s.columns.length := by
  simp only [toRows, cells, List.mem_map] at h
  obtain ⟨-, ⟨cell, -, rfl⟩, rfl⟩ := h
  rw [List.length_map, List.length_ofFn]

end Selection

/--
A database engine. What it stores is its state, which outlives the connections to it, and a
statement that fails leaves the state as it was. Programs, sessions and services work with any
engine.
-/
structure Engine where
  State : Type
  Connection : Type
  initial : State
  openAt : State → String → Except StorageError (Connection × State)
  create : State → Connection → String → List (String × String) → Except StorageError State
  insert : State → Connection → String → List (String × Cell) → Except StorageError State
  select : State → Connection → String → Except StorageError Selection

abbrev Slot := Nat

/-- The connections that are installed. Whoever holds a slot finds the one that is there now. -/
structure Slots (E : Engine) where
  entries : List (Slot × E.Connection)

namespace Slots

variable {E : Engine}

def empty : Slots E := ⟨[]⟩

def get? (slots : Slots E) (slot : Slot) : Option E.Connection := Assoc.find? slots.entries slot

def install (slots : Slots E) (slot : Slot) (connection : E.Connection) : Slots E :=
  ⟨Assoc.put slots.entries slot connection⟩

end Slots

end TableScript
