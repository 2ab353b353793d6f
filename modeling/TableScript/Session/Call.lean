import TableScript.Session.Basic

set_option autoImplicit false

namespace TableScript.Builtin

variable {E : Engine}

def textArgument (b : Builtin) (argument : String) (v : Value) : Run E String :=
  match v.text? with
  | some s => pure s
  | none => throw (.invalidArgument b argument "str" v.type)

def dictArgument (b : Builtin) (argument : String) (v : Value) : Run E (Dict Value) :=
  match v with
  | .dict d => pure d
  | _ => throw (.invalidArgument b argument "dict" v.type)

def connection (b : Builtin) : Run E E.Connection := do
  match (← get).connection with
  | some connection => pure connection
  | none => throw (.noDatabase b)

def cells : List (Key × Value) → Except EvalError (List (String × Cell))
  | [] => .ok []
  | (k, v) :: rest =>
    match Cell.ofValue? v with
    | none =>
      .error (.invalidArgument .dbInsert "row" "str, 64-bit int, float, bool or null values" v.type)
    | some cell => (cells rest).map ((Value.keyName k, cell) :: ·)

def printLine (args : List Value) : Run E Unit :=
  Run.report (.print (String.join (args.map Value.output)))

def connect (path : Value) : Run E Unit := do
  let path ← textArgument .connectDb "path" path
  Run.perform "Step: Connecting to the database" (E.openAt · path)
    (fun (connection, store) s => (s.withStore store).install connection)
    ("Connected to database: " ++ path)

def serve (settings : Settings) (title : Value) : Run E Unit := do
  let title ← textArgument .createApi "title" title
  Run.report (.step "Step: Creating the API")
  let inUse := (← get).listening.map (·.endpoint)
  match settings.host.bind inUse settings.endpoint with
  | .error e => throw (.cannotBind settings.endpoint e)
  | .ok endpoint =>
    modify fun s => s.start ⟨title, endpoint, s.storage⟩
    Run.report (.done ("API running at http://" ++ endpoint.text))

def declarations (columns : Dict Value) : List (String × String) :=
  columns.entries.map fun (k, v) => (Value.keyName k, v.output)

def createTable (table columns : Value) : Run E Unit := do
  let connection ← connection .dbCreateTable
  let table ← textArgument .dbCreateTable "table" table
  let columns ← dictArgument .dbCreateTable "columns" columns
  Run.perform "Step: Creating table" (E.create · connection table (declarations columns))
    (fun store s => s.withStore store) ("Table '" ++ table ++ "' created")

def insertRow (table row : Value) : Run E Unit := do
  let connection ← connection .dbInsert
  let table ← textArgument .dbInsert "table" table
  let row ← dictArgument .dbInsert "row" row
  let given ← ExceptT.mk (pure (cells row.entries))
  Run.perform "Step: Inserting data" (E.insert · connection table given)
    (fun store s => s.withStore store) ("Data inserted into " ++ table)

def reportRows : List String → Run E Unit
  | [] => pure ()
  | line :: rest => do
    Run.report (.row line)
    reportRows rest

def query (table : Value) : Run E Unit := do
  let connection ← connection .dbQuery
  let table ← textArgument .dbQuery "table" table
  Run.report (.step "Step: Fetching data")
  let selection ← Run.ofStorage (E.select (← get).store connection table)
  reportRows selection.toRows.tuples

def call (settings : Settings) (b : Builtin) (args : List Value) : Run E Unit :=
  match b, args with
  | .print, args => printLine args
  | .connectDb, [path] => connect path
  | .createApi, [title] => serve settings title
  | .dbCreateTable, [table, columns] => createTable table columns
  | .dbInsert, [table, row] => insertRow table row
  | .dbQuery, [table] => query table
  | b, args =>
    match b.arity with
    | .exactly n => throw (.arityMismatch b n args.length)
    | .variadic => pure ()

end TableScript.Builtin
