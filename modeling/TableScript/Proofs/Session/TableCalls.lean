import TableScript.Proofs.Dict
import TableScript.Proofs.Session.DatabaseCalls
import TableScript.Proofs.Storage.InMemory

set_option autoImplicit false

namespace TableScript

variable {E : Engine}

inductive TableCall where
  | create (table : String) (columns : Dict Value)
  | insert (table : String) (row : Dict Value)

namespace TableCall

def run (settings : Settings) : TableCall → Run E Unit
  | .create table columns => Builtin.dbCreateTable.call settings [.str table, .dict columns]
  | .insert table row => Builtin.dbInsert.call settings [.str table, .dict row]

def runAll (settings : Settings) : List TableCall → Run E Unit
  | [] => pure ()
  | call :: rest => do
    call.run settings
    runAll settings rest

def rowsOf (table : String) : List TableCall → List (Dict Value)
  | [] => []
  | .create _ _ :: rest => rowsOf table rest
  | .insert name row :: rest =>
    if sameName name table then row :: rowsOf table rest else rowsOf table rest

def shown (row : Dict Value) (column : String × String) : Value :=
  match (row.entries.find? fun (k, _) => sameName (Value.keyName k) column.1).bind
      fun (_, v) => Cell.ofValue? v with
  | some cell => ((Column.declaredAffinity column.2).store cell).toValue
  | none => .none

/-- The names of a row are apart, and none of them stands for the key of the row. -/
structure Fits (columns : List (String × String)) (row : Dict Value) : Prop where
  distinct : (row.entries.map fun (k, _) => Value.keyName k).Pairwise
    fun name other => sameName name other = false
  keyless : ∀ name ∈ row.entries.map (fun (k, _) => Value.keyName k),
    isUndeclaredKey (columns.map (·.1)) name = false

section Cells

variable {entries : List (Key × Value)} {given : List (String × Cell)}

theorem cells_spec (h : Builtin.cells entries = .ok given) :
    given.map (fun (name, cell) => (name, some cell)) =
      entries.map fun (k, v) => (Value.keyName k, Cell.ofValue? v) := by
  fun_induction Builtin.cells entries generalizing given with
  | case1 =>
    cases h
    rfl
  | case2 k v rest unbindable => cases h
  | case3 k v rest cell bindable ih =>
    cases others : Builtin.cells rest with
    | error e =>
      rw [others] at h
      cases h
    | ok later =>
      rw [others] at h
      cases h
      simp [ih others, bindable]

theorem names_of_cells (h : Builtin.cells entries = .ok given) :
    given.map (·.1) = entries.map fun (k, _) => Value.keyName k := by
  have names := congrArg (List.map (·.1)) (cells_spec h)
  rwa [List.map_map, List.map_map] at names

theorem find?_of_cells (h : Builtin.cells entries = .ok given) (name : String) :
    (given.find? fun entry => sameName entry.1 name).map (·.2) =
      (entries.find? fun (k, _) => sameName (Value.keyName k) name).bind
        fun (_, v) => Cell.ofValue? v := by
  have found := congrArg (List.find? fun entry => sameName entry.1 name) (cells_spec h)
  rw [List.find?_map, List.find?_map] at found
  have cells := congrArg (Option.bind · (·.2)) found
  simp only [Option.bind_map] at cells
  rw [Option.map_eq_bind]
  exact cells

theorem cellFor_eq_shown {row : Dict Value} (h : Builtin.cells row.entries = .ok given)
    (column : String × String) :
    (StoredTable.cellFor given (column.1, Column.declaredAffinity column.2)).toValue =
      shown row column := by
  rw [shown, ← find?_of_cells h, StoredTable.cellFor]
  dsimp only
  cases given.find? fun entry => sameName entry.1 column.1 with
  | some entry => rfl
  | none => rfl

end Cells

end TableCall

namespace StoredTable

def keysUpTo (n : Nat) : List Int := (List.range n).map fun (i : Nat) => (i : Int) + 1

theorem keysUpTo_succ (n : Nat) : keysUpTo (n + 1) = keysUpTo n ++ [(n : Int) + 1] := by
  simp [keysUpTo, List.range_succ]

theorem mem_keysUpTo {n : Nat} {key : Int} : key ∈ keysUpTo n ↔ 0 < key ∧ key ≤ n := by
  simp only [keysUpTo, List.mem_map, List.mem_range]
  constructor
  next =>
    rintro ⟨i, small, rfl⟩
    omega
  next =>
    rintro ⟨positive, small⟩
    exact ⟨(key - 1).toNat, by omega, by omega⟩

def Numbered (t : StoredTable) : Prop := t.rows.map (·.key) = keysUpTo t.rows.length

variable {t : StoredTable} {key : Int}

theorem Numbered.key_of_getLast? (h : t.Numbered) {row : Row} (last : t.rows.getLast? = some row) :
    row.key = t.rows.length := by
  obtain ⟨front, rows⟩ := List.getLast?_eq_some_iff.mp last
  rw [Numbered, rows, List.length_append, List.length_singleton, keysUpTo_succ,
    List.map_append] at h
  have same := List.append_inj_right' h rfl
  simpa [rows] using same

-- when the last key is the largest one all keys are taken, so no row is added any more
theorem Numbered.nextKey (h : t.Numbered) (bounded : (t.rows.length : Int) ≤ Table.largestKey)
    (next : t.NextKey key) :
    key = t.rows.length + 1 ∧ (t.rows.length : Int) < Table.largestKey := by
  cases last : t.rows.getLast? with
  | none =>
    have empty := List.getLast?_eq_none_iff.mp last
    rw [empty]
    exact ⟨next.first empty, by decide⟩
  | some row =>
    have top := h.key_of_getLast? last
    by_cases room : row.key < Table.largestKey
    next => exact ⟨top ▸ next.later row last room, top ▸ room⟩
    next =>
      obtain ⟨positive, small, fresh⟩ := next.wrapped row last (by omega)
      have taken : key ∈ t.rows.map (·.key) := by
        rw [h, mem_keysUpTo]
        omega
      obtain ⟨other, inside, same⟩ := List.mem_map.mp taken
      exact absurd same (fresh other inside)

theorem Numbered.add_last (h : t.Numbered) (cells : List Cell) :
    t.add ⟨t.rows.length + 1, cells⟩ =
      { t with rows := t.rows ++ [⟨t.rows.length + 1, cells⟩] } := by
  have bound : ∀ row ∈ t.rows, row.key ≤ t.rows.length := by
    intro row inside
    have listed : row.key ∈ keysUpTo t.rows.length := h ▸ List.mem_map_of_mem inside
    exact (mem_keysUpTo.mp listed).2
  have all : t.rows.filter (·.key < (t.rows.length : Int) + 1) = t.rows := by
    rw [List.filter_eq_self]
    intro row inside
    have := bound row inside
    simp only [decide_eq_true_eq]
    omega
  have none : t.rows.filter ((t.rows.length : Int) + 1 < ·.key) = [] := by
    rw [List.filter_eq_nil_iff]
    intro row inside
    have := bound row inside
    simp only [decide_eq_true_eq]
    omega
  simp only [add, all, none]

theorem Numbered.append (h : t.Numbered) (cells : List Cell) :
    Numbered { t with rows := t.rows ++ [⟨t.rows.length + 1, cells⟩] } := by
  rw [Numbered] at h
  simp [Numbered, h, keysUpTo_succ]

end StoredTable

namespace TableCall

/-- The table shows these rows in these columns, and goes on to number its rows. -/
def Shows (documented : E.Documented) (store : E.State) (c : E.Connection) (table : String)
    (columns : List (String × String)) (rows : List (List Value)) : Prop :=
  ∃ t : StoredTable, documented.Holds store c table t ∧ t.Numbered ∧
    (t.rows.length : Int) ≤ Table.largestKey ∧
    t.columns = columns.map (fun column => (column.1, Column.declaredAffinity column.2)) ∧
    t.rows.map (fun row => row.cells.map Cell.toValue) = rows

variable {documented : E.Documented} {store grown : E.State} {c : E.Connection}
  {table name : String} {columns : List (String × String)} {rows : List (List Value)}

theorem Shows.create {declared : List (String × String)}
    (shows : Shows documented store c table columns rows)
    (h : E.create store c name declared = .ok grown) :
    Shows documented grown c table columns rows := by
  obtain ⟨t, holds, rest⟩ := shows
  exact ⟨t, documented.create_again h holds, rest⟩

theorem Shows.insert_other {given : List (String × Cell)}
    (shows : Shows documented store c table columns rows)
    (h : E.insert store c name given = .ok grown) (other : sameName name table = false) :
    Shows documented grown c table columns rows := by
  obtain ⟨t, holds, rest⟩ := shows
  exact ⟨t, documented.insert_other h other holds, rest⟩

theorem Shows.insert {row : Dict Value} {given : List (String × Cell)}
    (shows : Shows documented store c table columns rows) (fits : Fits columns row)
    (known : Builtin.cells row.entries = .ok given) (h : E.insert store c name given = .ok grown)
    (same : sameName name table = true) :
    Shows documented grown c table columns (rows ++ [columns.map (shown row)]) := by
  obtain ⟨t, holds, numbered, bounded, named, shown⟩ := shows
  have names := names_of_cells known
  have distinct : given.Pairwise fun entry other => sameName entry.1 other.1 = false := by
    have apart := fits.distinct
    rwa [← names, List.pairwise_map] at apart
  have keyless : ∀ entry ∈ given, isUndeclaredKey (t.columns.map (·.1)) entry.1 = false := by
    intro entry inside
    have free := fits.keyless entry.1 (names ▸ List.mem_map_of_mem inside)
    rw [named, List.map_map]
    exact free
  obtain ⟨key, next, left⟩ := documented.insert_row h same holds distinct keyless
  obtain ⟨rfl, room⟩ := numbered.nextKey bounded next
  rw [numbered.add_last] at left
  refine ⟨_, left, numbered.append _, ?_, named, ?_⟩
  next =>
    simp only [List.length_append, List.length_singleton]
    omega
  next =>
    rw [List.map_append, shown, named]
    simp only [List.map_cons, List.map_nil, List.map_map, List.append_cancel_left_eq,
      List.cons.injEq, and_true]
    apply List.map_congr_left
    intro column _
    exact cellFor_eq_shown known column

theorem runAll_cons_ok {settings : Settings} {call : TableCall} {rest : List TableCall}
    {s after : Session E} (h : (runAll settings (call :: rest)).run.run s = (.ok (), after)) :
    ∃ middle, (call.run settings).run.run s = (.ok (), middle) ∧
      (runAll settings rest).run.run middle = (.ok (), after) := by
  rw [runAll, Run.run_bind] at h
  generalize (call.run settings).run.run s = first at h
  obtain ⟨_ | _, middle⟩ := first
  next => cases h
  next => exact ⟨middle, rfl, h⟩

theorem Shows.runAll (settings : Settings) (calls : List TableCall) {s after : Session E}
    (fits : ∀ row ∈ rowsOf table calls, Fits columns row) (connected : s.connection = some c)
    (shows : Shows documented s.store c table columns rows)
    (h : (runAll settings calls).run.run s = (.ok (), after)) :
    after.connection = some c ∧ Shows documented after.store c table columns
      (rows ++ (rowsOf table calls).map fun row => columns.map (shown row)) := by
  induction calls generalizing s rows with
  | nil =>
    cases h
    refine ⟨connected, ?_⟩
    rwa [rowsOf, List.map_nil, List.append_nil]
  | cons call rest ih =>
    obtain ⟨middle, done, later⟩ := runAll_cons_ok h
    cases call with
    | create name declared =>
      obtain ⟨created, next⟩ := Builtin.createTable_ok connected done
      exact ih fits next (shows.create created) later
    | insert name row =>
      obtain ⟨given, known, inserted, next⟩ := Builtin.insertRow_ok connected done
      rw [rowsOf] at fits ⊢
      split at fits
      next same =>
        obtain ⟨first, others⟩ := List.forall_mem_cons.mp fits
        have left := ih others next (shows.insert first known inserted same) later
        simpa [same] using left
      next other =>
        rw [Bool.not_eq_true] at other
        have left := ih fits next (shows.insert_other inserted other) later
        simpa [other] using left

end TableCall

def Session.connected : Session .inMemory :=
  (Session.withStore .empty [Database.empty]).install (0 : Nat)

namespace TableCall

theorem int_type : Column.isBareType "int" = true ∧ Column.declaredAffinity "int" = .integer :=
  Column.isBareType_word "int" "INT".toList (Piece.split_word 'i' _ _ rfl rfl) rfl

def entry (key value : Int) : Dict Value :=
  .ofEntries [(.str "rowid", .int key), (.str "a", .int value)]

end TableCall

end TableScript
