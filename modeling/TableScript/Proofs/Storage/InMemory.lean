import TableScript.Proofs.Storage.Lookup

set_option autoImplicit false

namespace TableScript

namespace Table

def ofStored (name : String) (t : StoredTable) : Table :=
  ⟨name, t.columns.map fun c => ⟨c.1, c.2, false, false, false, .null⟩, t.rows⟩

-- the keys come from the largest one down, so the first gap is found
theorem foldl_freeKey (taken : List Int) (key : Int) (descending : taken.Pairwise (· > ·))
    (bounded : ∀ other ∈ taken, other ≤ key) :
    let free := taken.foldl (fun key other => if other = key then key - 1 else key) key
    free ∉ taken ∧ free ≤ key ∧ ((∀ other ∈ taken, other < key) → free = key) := by
  induction taken generalizing key with
  | nil => simp
  | cons first rest ih =>
    obtain ⟨above, descending⟩ := List.pairwise_cons.mp descending
    have top := bounded first List.mem_cons_self
    by_cases same : first = key
    next =>
      have below : ∀ other ∈ rest, other ≤ key - 1 := by
        intro other inside
        have := above other inside
        omega
      obtain ⟨apart, bound, -⟩ := ih (key - 1) descending below
      simp only [List.foldl_cons, if_pos same]
      refine ⟨?_, by omega, fun strict => ?_⟩
      next =>
        rw [List.mem_cons, not_or]
        exact ⟨by omega, apart⟩
      next =>
        have := strict first List.mem_cons_self
        omega
    next =>
      have below : ∀ other ∈ rest, other < key := by
        intro other inside
        have := above other inside
        omega
      obtain ⟨apart, bound, unused⟩ :=
        ih key descending fun other inside => Int.le_of_lt (below other inside)
      have kept := unused below
      simp only [List.foldl_cons, if_neg same]
      refine ⟨?_, bound, fun _ => kept⟩
      rw [List.mem_cons, not_or]
      exact ⟨by omega, apart⟩

theorem place_eq (row : Row) (rows : List Row) (ascending : rows.Pairwise (·.key < ·.key))
    (fresh : ∀ other ∈ rows, other.key ≠ row.key) :
    place row rows = rows.filter (·.key < row.key) ++ row :: rows.filter (row.key < ·.key) := by
  induction rows with
  | nil => rfl
  | cons first rest ih =>
    obtain ⟨above, ascending⟩ := List.pairwise_cons.mp ascending
    obtain ⟨apart, fresh⟩ := List.forall_mem_cons.mp fresh
    by_cases smaller : first.key < row.key
    next =>
      have behind : ¬ row.key < first.key := by omega
      simp [place, smaller, behind, ih ascending fresh]
    next =>
      have ahead : row.key < first.key := by omega
      have none : rest.filter (·.key < row.key) = [] := by
        rw [List.filter_eq_nil_iff]
        intro other inside
        have := above other inside
        simp only [decide_eq_true_eq]
        omega
      have all : rest.filter (row.key < ·.key) = rest := by
        rw [List.filter_eq_self]
        intro other inside
        have := above other inside
        simp only [decide_eq_true_eq]
        omega
      simp [place, smaller, ahead, none, all]

structure Sound (t : StoredTable) : Prop where
  full : ∀ row ∈ t.rows, row.cells.length = t.columns.length
  ascending : t.rows.Pairwise (·.key < ·.key)
  bounded : ∀ row ∈ t.rows, row.key ≤ largestKey

variable {name asked : String} {t : StoredTable} {given : List (String × Cell)} {key : Int}

theorem Sound.le_last (sound : Sound t) {last row : Row} (h : t.rows.getLast? = some last)
    (inside : row ∈ t.rows) : row.key ≤ last.key := by
  obtain ⟨front, rows⟩ := List.getLast?_eq_some_iff.mp h
  have ascending := sound.ascending
  rw [rows] at inside ascending
  rcases List.mem_append.mp inside with before | alone
  next =>
    have := (List.pairwise_append.mp ascending).2.2 row before last List.mem_cons_self
    omega
  next => exact (List.mem_singleton.mp alone) ▸ Int.le_refl _

theorem Sound.freeKey_spec (sound : Sound t) :
    freeKey (t.rows.reverse.map (·.key)) ≤ largestKey ∧
      ∀ other ∈ t.rows, other.key ≠ freeKey (t.rows.reverse.map (·.key)) := by
  have descending : (t.rows.reverse.map (·.key)).Pairwise (· > ·) := by
    rw [List.pairwise_map, List.pairwise_reverse]
    exact sound.ascending
  have bounded : ∀ other ∈ t.rows.reverse.map (·.key), other ≤ largestKey := by
    intro other inside
    obtain ⟨row, member, rfl⟩ := List.mem_map.mp inside
    exact sound.bounded row (List.mem_reverse.mp member)
  obtain ⟨free, bound, -⟩ := foldl_freeKey _ _ descending bounded
  refine ⟨bound, fun other inside same => ?_⟩
  rw [← freeKey, ← same] at free
  exact free (List.mem_map_of_mem (List.mem_reverse.mpr inside))

theorem nextKey_spec (sound : Sound t) (h : (ofStored name t).nextKey = .ok key) :
    t.NextKey key ∧ key ≤ largestKey ∧ ∀ other ∈ t.rows, other.key ≠ key := by
  have rows : (ofStored name t).rows = t.rows := rfl
  rw [nextKey, rows] at h
  cases last : t.rows.getLast? with
  | none =>
    rw [last] at h
    cases h
    have empty := List.getLast?_eq_none_iff.mp last
    refine ⟨⟨fun _ => rfl, by simp [last], by simp [last]⟩, by decide, by simp [empty]⟩
  | some row =>
    rw [last] at h
    dsimp only at h
    have top := sound.bounded row (List.mem_of_getLast? last)
    have some : t.rows ≠ [] := by
      rintro empty
      simp [empty] at last
    split at h
    next room =>
      cases h
      refine ⟨⟨fun empty => absurd empty some, ?_, ?_⟩, by omega, fun other inside => ?_⟩
      next =>
        intro _ same _
        cases last.symm.trans same
        rfl
      next =>
        intro _ same full
        cases last.symm.trans same
        omega
      next =>
        have := sound.le_last last inside
        omega
    next full =>
      obtain ⟨bound, unused⟩ := sound.freeKey_spec
      split at h
      next positive =>
        cases h
        refine ⟨⟨fun empty => absurd empty some, ?_, ?_⟩, bound, unused⟩
        next =>
          intro _ same room
          cases last.symm.trans same
          exact absurd room full
        next => exact fun _ _ _ => ⟨positive, bound, unused⟩
      next => cases h

theorem keyFor_of_stored
    (free : ∀ entry ∈ given, isUndeclaredKey (t.columns.map (·.1)) entry.1 = false) :
    (ofStored name t).keyFor given = (ofStored name t).nextKey := by
  have none : given.reverse.find? (fun entry => (ofStored name t).namesKey entry.1) = none := by
    rw [List.find?_eq_none]
    intro entry inside
    have other := free entry (List.mem_reverse.mp inside)
    rw [namesKey]
    cases found : (ofStored name t).columns.find? fun column => sameName entry.1 column.name with
    | some column =>
      obtain ⟨c, -, rfl⟩ := List.mem_map.mp (List.mem_of_find?_eq_some found)
      simp
    | none =>
      have undeclared : (t.columns.map (·.1)).any (sameName entry.1) = false := by
        rw [List.find?_eq_none] at found
        rw [List.any_map, List.any_eq_false]
        intro c member
        exact found _ (List.mem_map_of_mem member)
      simpa [isUndeclaredKey, undeclared] using other
  rw [keyFor, none]

theorem cellFor_stored (c : String × Affinity) :
    cellFor given ⟨c.1, c.2, false, false, false, .null⟩ = StoredTable.cellFor given c := by
  rw [cellFor, StoredTable.cellFor]
  dsimp only
  cases given.find? fun entry => sameName entry.1 c.1 with
  | some entry => rfl
  | none => cases c.2 <;> rfl

theorem newRow_stored (key : Int) :
    (ofStored name t).newRow key given = ⟨key, t.columns.map (StoredTable.cellFor given)⟩ := by
  simp [newRow, ofStored, Function.comp_def, cellFor_stored]

theorem Sound.add (sound : Sound t) {row : Row} (full : row.cells.length = t.columns.length)
    (bounded : row.key ≤ largestKey) : Sound (t.add row) := by
  have cases {other : Row} (inside : other ∈ (t.add row).rows) : other ∈ t.rows ∨ other = row := by
    simp only [StoredTable.add, List.mem_append, List.mem_cons, List.mem_filter] at inside
    rcases inside with below | same | above
    next => exact .inl below.1
    next => exact .inr same
    next => exact .inl above.1
  refine ⟨fun other inside => ?_, ?_, fun other inside => ?_⟩
  next =>
    rcases cases inside with old | rfl
    next => exact sound.full other old
    next => exact full
  next =>
    simp only [StoredTable.add, List.pairwise_append, List.pairwise_cons, List.mem_filter,
      List.mem_cons, decide_eq_true_eq]
    refine ⟨sound.ascending.filter _, ⟨fun _ above => above.2, sound.ascending.filter _⟩, ?_⟩
    rintro before below other (rfl | above)
    next => exact below.2
    next => exact Int.lt_trans below.2 above.2
  next =>
    rcases cases inside with old | rfl
    next => exact sound.bounded other old
    next => exact bounded

theorem insert_stored {grown : Table} (sound : Sound t)
    (h : (ofStored name t).insert asked given = .ok grown)
    (free : ∀ entry ∈ given, isUndeclaredKey (t.columns.map (·.1)) entry.1 = false) :
    ∃ key, t.NextKey key ∧ Sound (t.add ⟨key, t.columns.map (StoredTable.cellFor given)⟩) ∧
      grown = ofStored name (t.add ⟨key, t.columns.map (StoredTable.cellFor given)⟩) := by
  obtain ⟨key, found, rfl⟩ := insert_eq_ok h
  rw [keyFor_of_stored free] at found
  obtain ⟨next, bound, fresh⟩ := nextKey_spec sound found
  refine ⟨key, next, sound.add (List.length_map _) bound, ?_⟩
  rw [newRow_stored]
  exact congrArg (Table.mk name _) (place_eq _ t.rows sound.ascending fresh)

theorem cells_selection (sound : Sound t) :
    (ofStored name t).selection.cells = t.rows.map (·.cells) := by
  rw [Selection.cells, selection, List.map_map]
  apply List.map_congr_left
  intro row inside
  have width := sound.full row inside
  apply List.ext_getElem
  next => simp [ofStored, width]
  next =>
    intro i _ bound
    simp [bound]

end Table

namespace Database

def Holds (db : Database) (table : String) (t : StoredTable) : Prop :=
  Table.Sound t ∧ ∃ name, db.find? table = some (.ofStored name t)

variable {db after : Database} {name table : String} {columns : List (String × String)}
  {given : List (String × Cell)} {t : StoredTable}

theorem create_bare (free : isReserved table = false) (some : columns ≠ [])
    (distinct : Table.repeatedName? [] (columns.map (·.1)) = none)
    (bare : ∀ c ∈ columns, Column.isBareType c.2 = true) (missing : db.find? table = none) :
    db.create table columns = .ok ⟨db.tables ++
      [.ofStored table ⟨columns.map fun c => (c.1, Column.declaredAffinity c.2), []⟩]⟩ := by
  have plain := List.map_congr_left fun c inside =>
    Column.ofDeclaration_of_isBareType c.1 c.2 (bare c inside)
  have there : columns.isEmpty = false := by simpa using some
  simp only [create, free, there, missing, Table.create, distinct, plain, Table.ofStored,
    List.map_map]
  rfl

theorem Holds.create (holds : db.Holds table t) (h : db.create name columns = .ok after) :
    after.Holds table t := by
  obtain ⟨sound, name, found⟩ := holds
  refine ⟨sound, name, ?_⟩
  rw [find?_create h, found]
  rfl

theorem Holds.insert_other (holds : db.Holds table t) (h : db.insert name given = .ok after)
    (other : sameName name table = false) : after.Holds table t := by
  obtain ⟨sound, name, found⟩ := holds
  have there := find?_insert h table
  rw [other] at there
  exact ⟨sound, name, there.trans found⟩

theorem Holds.insert (holds : db.Holds table t) (h : db.insert name given = .ok after)
    (same : sameName name table = true)
    (free : ∀ entry ∈ given, isUndeclaredKey (t.columns.map (·.1)) entry.1 = false) :
    ∃ key, t.NextKey key ∧
      after.Holds table (t.add ⟨key, t.columns.map (StoredTable.cellFor given)⟩) := by
  obtain ⟨sound, name, found⟩ := holds
  have there := find?_insert h table
  rw [if_pos same] at there
  obtain ⟨old, grown, found', inserted, left⟩ := there
  cases found.symm.trans found'
  obtain ⟨key, next, sound, rfl⟩ := Table.insert_stored sound inserted free
  exact ⟨key, next, sound, name, left⟩

theorem Holds.select (holds : db.Holds table t) :
    ∃ selection, db.select table = .ok selection ∧ selection.columns = t.columns.map (·.1) ∧
      selection.cells = t.rows.map (·.cells) := by
  obtain ⟨sound, name, found⟩ := holds
  refine ⟨(Table.ofStored name t).selection, ?_, ?_, Table.cells_selection sound⟩
  next => rw [Database.select, found]
  next => simp [Table.selection, Table.ofStored, Function.comp_def]

section Several

variable {dbs left : List Database} {i : Nat} (change : Database → Except Refusal Database)

theorem changeAt_of_ok (there : dbs[i]? = some db) (h : change db = .ok after) :
    changeAt dbs i change = .ok (dbs.set i after) := by
  simp only [changeAt, List.getD_eq_getElem?_getD, there, Option.getD_some, h]
  rfl

theorem changeAt_ok (there : dbs[i]? = some db) (h : changeAt dbs i change = .ok left) :
    ∃ after, change db = .ok after ∧ left[i]? = some after := by
  simp only [changeAt, List.getD_eq_getElem?_getD, there, Option.getD_some] at h
  obtain ⟨bound, -⟩ := List.getElem?_eq_some_iff.mp there
  cases changed : change db with
  | error e =>
    rw [changed] at h
    cases h
  | ok after =>
    rw [changed] at h
    cases h
    exact ⟨after, rfl, List.getElem?_set_self bound⟩

theorem create_at (there : dbs[i]? = some db) (h : db.create name columns = .ok after) :
    Engine.inMemory.create dbs i name columns = .ok (dbs.set i after) :=
  changeAt_of_ok (·.create name columns) there h

theorem insert_at (there : dbs[i]? = some db) (h : db.insert name given = .ok after) :
    Engine.inMemory.insert dbs i name given = .ok (dbs.set i after) :=
  changeAt_of_ok (·.insert name given) there h

/-- What is said of the database that a connection is to. -/
def At (dbs : List Database) (i : Nat) (P : Database → Prop) : Prop :=
  ∃ db, dbs[i]? = some db ∧ P db

theorem At.changeAt {P Q : Database → Prop} (holds : At dbs i P)
    (h : changeAt dbs i change = .ok left)
    (step : ∀ db after, change db = .ok after → P db → Q after) : At left i Q := by
  obtain ⟨db, there, before⟩ := holds
  obtain ⟨after, changed, found⟩ := changeAt_ok change there h
  exact ⟨after, found, step db after changed before⟩

theorem At.create {P Q : Database → Prop} (holds : At dbs i P)
    (h : Engine.inMemory.create dbs i name columns = .ok left)
    (step : ∀ db after, db.create name columns = .ok after → P db → Q after) : At left i Q :=
  holds.changeAt (·.create name columns) h step

theorem At.insert {P Q : Database → Prop} (holds : At dbs i P)
    (h : Engine.inMemory.insert dbs i name given = .ok left)
    (step : ∀ db after, db.insert name given = .ok after → P db → Q after) : At left i Q :=
  holds.changeAt (·.insert name given) h step

end Several

end Database

namespace Engine

open Database

end Engine

end TableScript
