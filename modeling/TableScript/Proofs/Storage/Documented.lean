import TableScript.Storage.Database

set_option autoImplicit false

namespace TableScript

namespace Column

def isBareType (type : String) : Bool :=
  match typeWords (Piece.split type.toList) with
  | (_, []) => true
  | (_ :: _, [.mark '(', .number _, .mark ')']) => true
  | (_ :: _, [.mark '(', .number _, .mark ',', .number _, .mark ')']) => true
  | _ => false

def declaredAffinity (type : String) : Affinity :=
  .ofType (List.intercalate [' '] (typeWords (Piece.split type.toList)).1)

end Column

/-- Whether a name stands for the key of a row because it is the name of no column. -/
def isUndeclaredKey (columns : List String) (name : String) : Bool :=
  Table.keyNames.any (sameName name) && !(columns.any (sameName name))

/-- A table without constraints: its columns, and its rows in the order of their keys. -/
structure StoredTable where
  columns : List (String × Affinity)
  rows : List Row

namespace StoredTable

def cellFor (given : List (String × Cell)) (column : String × Affinity) : Cell :=
  match given.find? fun entry => sameName entry.1 column.1 with
  | some entry => column.2.store entry.2
  | none => .null

/-- The key of a row that is given none: one more than the last key, or any that is free. -/
structure NextKey (t : StoredTable) (key : Int) : Prop where
  first : t.rows = [] → key = 1
  later : ∀ row, t.rows.getLast? = some row → row.key < Table.largestKey → key = row.key + 1
  wrapped : ∀ row, t.rows.getLast? = some row → row.key = Table.largestKey →
    0 < key ∧ key ≤ Table.largestKey ∧ ∀ other ∈ t.rows, other.key ≠ key

def add (t : StoredTable) (row : Row) : StoredTable :=
  { t with rows := t.rows.filter (·.key < row.key) ++ row :: t.rows.filter (row.key < ·.key) }

end StoredTable

/--
What an engine documents about the tables without constraints that a connection finds, as long as
only this connection works on them.
-/
structure Engine.Documented (E : Engine) where
  Missing : E.State → E.Connection → String → Prop
  Holds : E.State → E.Connection → String → StoredTable → Prop
  openAt : ∀ {store after c table}, E.openAt store ":memory:" = .ok (c, after) →
    Database.isReserved table = false → Missing after c table
  create_other : ∀ {store after c name columns table},
    E.create store c name columns = .ok after → sameName name table = false →
    Missing store c table → Missing after c table
  create_new : ∀ {store after c name columns table},
    E.create store c name columns = .ok after → sameName name table = true →
    Missing store c table → (∀ column ∈ columns, Column.isBareType column.2 = true) →
    Holds after c table
      ⟨columns.map fun column => (column.1, Column.declaredAffinity column.2), []⟩
  create_again : ∀ {store after c name columns table t},
    E.create store c name columns = .ok after → Holds store c table t → Holds after c table t
  insert_missing : ∀ {store after c name given table},
    E.insert store c name given = .ok after → Missing store c table →
    sameName name table = false ∧ Missing after c table
  insert_other : ∀ {store after c name given table t},
    E.insert store c name given = .ok after → sameName name table = false →
    Holds store c table t → Holds after c table t
  insert_row : ∀ {store after c name given table t},
    E.insert store c name given = .ok after → sameName name table = true →
    Holds store c table t →
    given.Pairwise (fun entry other => sameName entry.1 other.1 = false) →
    (∀ entry ∈ given, isUndeclaredKey (t.columns.map (·.1)) entry.1 = false) →
    ∃ key, t.NextKey key ∧
      Holds after c table (t.add ⟨key, t.columns.map (StoredTable.cellFor given)⟩)
  select : ∀ {store c table t}, Holds store c table t →
    ∃ selection, E.select store c table = .ok selection ∧
      selection.columns = t.columns.map (·.1) ∧ selection.cells = t.rows.map (·.cells)

end TableScript
