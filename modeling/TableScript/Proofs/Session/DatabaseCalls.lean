import TableScript.Proofs.Value.Literal
import TableScript.Session.Call

set_option autoImplicit false

namespace TableScript

variable {E : Engine}

def tupleOf (items : List (List Char)) : List Char :=
  '(' :: (List.intercalate [',', ' '] items ++ if items.length = 1 then [',', ')'] else [')'])

theorem Rows.tupleChars_eq (row : List Value) :
    tupleChars row = tupleOf (row.map Value.literalChars) := by
  match row with
  | [] => rfl
  | [v] => simp [tupleChars, tupleOf]
  | v :: w :: rest =>
    rw [tupleChars, Value.itemChars_eq, tupleOf, List.length_map, if_neg (by simp)]
    next => rfl
    next => simp

def Rows.lines (r : Rows) : List Event :=
  r.rows.map fun row => .row (String.ofList (tupleOf (row.map Value.literalChars)))

theorem Rows.lines_eq (r : Rows) : r.tuples.map .row = r.lines := by
  simp [tuples, tupleChars_eq, lines, Function.comp_def]

namespace Builtin

open Run

theorem run_connection (b : Builtin) (s : Session E) :
    (connection b).run.run s =
      match s.connection with
      | some c => (.ok c, s)
      | none => (.error (.noDatabase b), s) := by
  have read (f : Session E → Run E E.Connection) :
      (get >>= f : Run E E.Connection).run.run s = (f s).run.run s := rfl
  rw [connection, read]
  cases s.connection <;> rfl

theorem run_cells (entries : List (Key × Value)) (s : Session E) :
    (ExceptT.mk (pure (cells entries)) : Run E _).run.run s = (cells entries, s) := rfl

section Performed

variable {α : Type} {heading message : String} {attempt : E.State → Except StorageError α}
  {keep : α → Session E → Session E} {s after : Session E}

theorem run_perform :
    (perform heading attempt keep message).run.run s =
      match attempt s.store with
      | .ok a => (.ok (), (keep a (s.report (.step heading))).report (.done message))
      | .error e => (.error (.storage e), s.report (.step heading)) := by
  have announced : (perform heading attempt keep message).run.run s =
      (do
        let a ← ofStorage (attempt s.store)
        modify (keep a)
        report (.done message) : Run E Unit).run.run (s.report (.step heading)) := rfl
  rw [announced]
  cases attempt s.store <;> rfl

theorem perform_ok (h : (perform heading attempt keep message).run.run s = (.ok (), after)) :
    ∃ a, attempt s.store = .ok a ∧
      after = (keep a (s.report (.step heading))).report (.done message) := by
  rw [run_perform] at h
  split at h
  next a made =>
    cases h
    exact ⟨a, made, rfl⟩
  next => cases h

end Performed

section Changes

variable {table : String} {d : Dict Value} {given : List (String × Cell)} {s after : Session E}
  {c : E.Connection} {store : E.State}

theorem createTable_of_connected (connected : s.connection = some c) :
    (createTable (.str table) (.dict d)).run.run s =
      (perform "Step: Creating table" (E.create · c table (declarations d))
        (fun store s => s.withStore store) ("Table '" ++ table ++ "' created")).run.run s := by
  rw [createTable, run_bind, run_connection, connected]
  rfl

theorem insertRow_of_connected (connected : s.connection = some c)
    (known : cells d.entries = .ok given) :
    (insertRow (.str table) (.dict d)).run.run s =
      (perform "Step: Inserting data" (E.insert · c table given)
        (fun store s => s.withStore store) ("Data inserted into " ++ table)).run.run s := by
  rw [insertRow, run_bind, run_connection, connected]
  dsimp only [textArgument, dictArgument, Value.text?]
  rw [pure_bind, pure_bind, run_bind, run_cells, known]

theorem run_createTable (connected : s.connection = some c)
    (made : E.create s.store c table (declarations d) = .ok store) :
    (createTable (.str table) (.dict d)).run.run s =
      (.ok (), ((s.report (.step "Step: Creating table")).withStore store).report
        (.done ("Table '" ++ table ++ "' created"))) := by
  rw [createTable_of_connected connected, run_perform, made]

theorem run_insertRow (connected : s.connection = some c) (known : cells d.entries = .ok given)
    (inserted : E.insert s.store c table given = .ok store) :
    (insertRow (.str table) (.dict d)).run.run s =
      (.ok (), ((s.report (.step "Step: Inserting data")).withStore store).report
        (.done ("Data inserted into " ++ table))) := by
  rw [insertRow_of_connected connected known, run_perform, inserted]

theorem createTable_ok (connected : s.connection = some c)
    (h : (createTable (.str table) (.dict d)).run.run s = (.ok (), after)) :
    E.create s.store c table (declarations d) = .ok after.store ∧ after.connection = some c := by
  rw [createTable_of_connected connected] at h
  obtain ⟨store, made, rfl⟩ := perform_ok h
  exact ⟨made, connected⟩

theorem insertRow_ok (connected : s.connection = some c)
    (h : (insertRow (.str table) (.dict d)).run.run s = (.ok (), after)) :
    ∃ given, cells d.entries = .ok given ∧ E.insert s.store c table given = .ok after.store ∧
      after.connection = some c := by
  cases known : cells d.entries with
  | ok given =>
    rw [insertRow_of_connected connected known] at h
    obtain ⟨store, inserted, rfl⟩ := perform_ok h
    exact ⟨given, rfl, inserted, connected⟩
  | error e =>
    rw [insertRow, run_bind, run_connection, connected] at h
    dsimp only [textArgument, dictArgument, Value.text?] at h
    rw [pure_bind, pure_bind, run_bind, run_cells, known] at h
    cases h

end Changes

theorem run_reportRows (lines : List String) (s : Session E) :
    (reportRows lines).run.run s = (.ok (), { s with events := s.events ++ lines.map .row }) := by
  induction lines generalizing s with
  | nil =>
    rw [List.map_nil, List.append_nil]
    rfl
  | cons line rest ih =>
    have reported : (report (.row line)).run.run s = (.ok (), s.report (.row line)) := rfl
    rw [reportRows, run_bind, reported]
    dsimp only
    rw [ih]
    simp [Session.report]

section Queried

variable {s : Session E} {c : E.Connection} {table : String}

theorem run_query_unconnected (unconnected : s.connection = none) :
    (query (.str table)).run.run s = (.error (.noDatabase .dbQuery), s) := by
  rw [query, run_bind, run_connection, unconnected]

theorem query_of_connected (connected : s.connection = some c) :
    (query (.str table)).run.run s =
      (do
        let selection ← ofStorage (E.select s.store c table)
        reportRows selection.toRows.tuples : Run E Unit).run.run
          (s.report (.step "Step: Fetching data")) := by
  rw [query, run_bind, run_connection, connected]
  rfl

theorem run_query_refused {e : StorageError} (connected : s.connection = some c)
    (refused : E.select s.store c table = .error e) :
    (query (.str table)).run.run s =
      (.error (.storage e), s.report (.step "Step: Fetching data")) := by
  rw [query_of_connected connected, refused]
  rfl

theorem run_query {selection : Selection} (connected : s.connection = some c)
    (selected : E.select s.store c table = .ok selection) :
    (query (.str table)).run.run s =
      (.ok (), { s with
        events := s.events ++ .step "Step: Fetching data" :: selection.toRows.lines }) := by
  rw [query_of_connected connected, selected, ofStorage, pure_bind, run_reportRows, Rows.lines_eq]
  simp [Session.report]

end Queried

end Builtin

end TableScript
