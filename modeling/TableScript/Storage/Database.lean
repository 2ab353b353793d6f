import TableScript.Storage.Column
import TableScript.Storage.Engine

set_option autoImplicit false

namespace TableScript

inductive Refusal where
  | cannotOpen (path : String)
  | noColumns (table : String)
  | duplicateColumn (column : String)
  | reservedName (table : String)
  | noSuchTable (table : String)
  | noSuchColumn (table column : String)
  | notNull (table column : String)
  | notUnique (table column : String)
  | datatypeMismatch
  | full
deriving DecidableEq, Repr

namespace Refusal

def detail : Refusal → String
  | .cannotOpen path => "unable to open database file: " ++ path
  | .noColumns table =>
    let statement := (Statement.create table []).text
    "near \")\": syntax error in " ++ statement ++ s!" at offset {statement.utf8ByteSize - 1}"
  | .duplicateColumn column => "duplicate column name: " ++ column
  | .reservedName table => "object name reserved for internal use: " ++ table
  | .noSuchTable table => "no such table: " ++ table
  | .noSuchColumn table column => "table " ++ table ++ " has no column named " ++ column
  | .notNull table column => "NOT NULL constraint failed: " ++ table ++ "." ++ column
  | .notUnique table column => "UNIQUE constraint failed: " ++ table ++ "." ++ column
  | .datatypeMismatch => "datatype mismatch"
  | .full => "database or disk is full"

def reported (r : Refusal) : StorageError := ⟨r.detail⟩

end Refusal

structure Row where
  key : Int
  cells : List Cell
deriving DecidableEq, Repr

structure Table where
  name : String
  columns : List Column
  rows : List Row
deriving DecidableEq, Repr

namespace Table

def repeatedName? : List String → List String → Option String
  | _, [] => none
  | before, name :: rest =>
    if before.any (sameName name) then some name else repeatedName? (before ++ [name]) rest

def create (name : String) (declarations : List (String × String)) : Except Refusal Table :=
  match repeatedName? [] (declarations.map (·.1)) with
  | some column => .error (.duplicateColumn column)
  | none => .ok ⟨name, declarations.map fun (name, type) => .ofDeclaration name type, []⟩

def largestKey : Int := Cell.wordLimit - 1

def freeKey (taken : List Int) : Int :=
  taken.foldl (fun key other => if other = key then key - 1 else key) largestKey

def nextKey (t : Table) : Except Refusal Int :=
  match t.rows.getLast? with
  | none => .ok 1
  | some row =>
    if row.key < largestKey then .ok (row.key + 1)
    else
      let key := freeKey (t.rows.reverse.map (·.key))
      if 0 < key then .ok key else .error .full

def cellFor (given : List (String × Cell)) (column : Column) : Cell :=
  match given.find? fun entry => sameName entry.1 column.name with
  | some entry => column.affinity.store entry.2
  | none => column.affinity.store column.default

def keyNames : List String := ["rowid", "oid", "_rowid_"]

/-- Whether what is given under a name is the key of the row: a declared column goes before the
names that every table has for its keys. -/
def namesKey (t : Table) (name : String) : Bool :=
  match t.columns.find? fun column => sameName name column.name with
  | some column => column.rowKey
  | none => keyNames.any (sameName name)

def hasColumn (t : Table) (name : String) : Bool :=
  t.columns.any fun column => sameName name column.name

def unknownColumn? (t : Table) (given : List (String × Cell)) : Option String :=
  (given.find? fun entry => !(t.hasColumn entry.1 || t.namesKey entry.1)).map (·.1)

def keyFor (t : Table) (given : List (String × Cell)) : Except Refusal Int :=
  match given.reverse.find? fun entry => t.namesKey entry.1 with
  | none => t.nextKey
  | some entry =>
    match Affinity.integer.store entry.2 with
    | .integer n => .ok n
    | .null => t.nextKey
    | _ => .error .datatypeMismatch

def newRow (t : Table) (key : Int) (given : List (String × Cell)) : Row :=
  ⟨key, t.columns.map fun column => if column.rowKey then .integer key else cellFor given column⟩

def emptyColumn? (t : Table) (row : Row) : Option String :=
  ((t.columns.zip row.cells).find? fun (column, cell) => column.notNull && cell == .null).map
    fun (column, _) => column.name

def repeatedColumn? (t : Table) (row : Row) : Option String :=
  let clashes (i : Nat) (column : Column) : Bool :=
    column.unique && t.rows.any fun other =>
      (other.cells.getD i .null).same (row.cells.getD i .null)
  (t.columns.zipIdx.reverse.find? fun (column, i) => clashes i column).map
    fun (column, _) => column.name

def clashingKey? (t : Table) (row : Row) : Option String :=
  if t.rows.any fun other => other.key == row.key then
    some (((t.columns.find? (·.rowKey)).map (·.name)).getD "rowid")
  else none

def place (row : Row) : List Row → List Row
  | [] => [row]
  | other :: rest => if other.key < row.key then other :: place row rest else row :: other :: rest

def refusal? (t : Table) (row : Row) : Option Refusal :=
  ((t.emptyColumn? row).map (.notNull t.name)).or <|
    ((t.clashingKey? row).map (.notUnique t.name)).or <|
      (t.repeatedColumn? row).map (.notUnique t.name)

def insert (t : Table) (asked : String) (given : List (String × Cell)) :
    Except Refusal Table :=
  match t.unknownColumn? given with
  | some column => .error (.noSuchColumn asked column)
  | none =>
    match t.keyFor given with
    | .error e => .error e
    | .ok key =>
      let row := t.newRow key given
      match t.refusal? row with
      | some e => .error e
      | none => .ok { t with rows := place row t.rows }

def selection (t : Table) : Selection :=
  ⟨t.columns.map (·.name), t.rows.map fun row i => row.cells.getD i .null⟩

end Table

structure Database where
  tables : List Table
deriving DecidableEq, Repr, Inhabited

namespace Database

def empty : Database := ⟨[]⟩

def openAt (path : String) : Except Refusal Database :=
  if path = ":memory:" ∨ path = "" then .ok empty else .error (.cannotOpen path)

def find? (db : Database) (table : String) : Option Table :=
  db.tables.find? fun t => sameName t.name table

def isReserved (table : String) : Bool :=
  "sqlite_".toList.isPrefixOf (table.toList.map Char.toLower)

def create (db : Database) (table : String) (declarations : List (String × String)) :
    Except Refusal Database :=
  if isReserved table then .error (.reservedName table)
  else if declarations.isEmpty then .error (.noColumns table)
  else if (db.find? table).isSome then .ok db
  else do
    let t ← Table.create table declarations
    return ⟨db.tables ++ [t]⟩

def replace (db : Database) (t : Table) : Database :=
  ⟨db.tables.map fun other => if sameName other.name t.name then t else other⟩

def insert (db : Database) (table : String) (given : List (String × Cell)) :
    Except Refusal Database :=
  match db.find? table with
  | none => .error (.noSuchTable table)
  | some t => do
    let grown ← t.insert table given
    return db.replace grown

def select (db : Database) (table : String) : Except Refusal Selection :=
  match db.find? table with
  | none => .error (.noSuchTable table)
  | some t => .ok t.selection

def changeAt (dbs : List Database) (i : Nat) (change : Database → Except Refusal Database) :
    Except StorageError (List Database) := do
  let changed ← (change (dbs.getD i .empty)).mapError Refusal.reported
  return dbs.set i changed

end Database

/-- Databases in memory, as far as types, key columns and the usual constraints go. -/
def Engine.inMemory : Engine where
  State := List Database
  Connection := Nat
  initial := []
  openAt dbs path := do
    let db ← (Database.openAt path).mapError Refusal.reported
    return (dbs.length, dbs ++ [db])
  create dbs i table declarations := Database.changeAt dbs i (·.create table declarations)
  insert dbs i table given := Database.changeAt dbs i (·.insert table given)
  select dbs i table := ((dbs.getD i .empty).select table).mapError Refusal.reported

end TableScript
