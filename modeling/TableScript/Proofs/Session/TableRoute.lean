import TableScript.Proofs.Service.Percent
import TableScript.Proofs.Session.Reached
import TableScript.Proofs.Session.TableCalls

set_option autoImplicit false

namespace TableScript

variable {E : Engine}

def Rows.document (r : Rows) : Json :=
  .array (r.rows.map fun row => .object (r.columns.zip (row.map Value.toJson)))

-- A name that repeats would have one field; tables do not repeat names.
theorem Selection.toJson_toRows (s : Selection) (distinct : s.columns.Nodup) :
    s.toRows.toJson = s.toRows.document := by
  have objects : ∀ row ∈ s.toRows.rows, Rows.rowJson s.columns row =
      .object (s.columns.zip (row.map Value.toJson)) := by
    intro row inside
    have names : (s.columns.zip (row.map Value.toJson)).map (·.1) = s.columns := by
      apply List.map_fst_zip
      rw [List.length_map, s.length_of_mem_rows row inside]
    rw [Rows.rowJson, Assoc.collect_of_nodup _ (by rwa [names])]
  exact congrArg Json.array (List.map_congr_left objects)

namespace Service

def tableUrl (written : String) (search : Option String) : String :=
  "/tables/" ++ written ++ (search.map ("?" ++ ·)).getD ""

variable {title table written : String} {store : E.State} {connection : Option E.Connection}

def isPlain (c : Char) : Prop := c ≠ '%' ∧ c ≠ '?'

theorem tablePrefix_eq : tablePrefix = ['/', 't', 'a', 'b', 'l', 'e', 's', '/'] :=
  String.toList_ofList

theorem path_tableUrl (search : Option String) (visible : '?' ∉ written.toList) :
    (tableUrl written search).toList.takeWhile (· != '?') = tablePrefix ++ written.toList := by
  have front : ∀ c ∈ tablePrefix ++ written.toList, (c != '?') = true := by
    intro c inside
    rw [bne_iff_ne]
    rintro rfl
    rcases List.mem_append.mp inside with early | late
    next => simp [tablePrefix_eq] at early
    next => exact visible late
  have nothing : ((search.map ("?" ++ ·)).getD "").toList.takeWhile (· != '?') = [] := by
    cases search with
    | none => rfl
    | some query =>
      rw [Option.map_some, Option.getD_some, String.toList_append]
      rfl
  have split (a b c : String) : (a ++ b ++ c).toList = a.toList ++ b.toList ++ c.toList := by
    rw [String.toList_append, String.toList_append]
  have whole : (tableUrl written search).toList =
      tablePrefix ++ written.toList ++ ((search.map ("?" ++ ·)).getD "").toList :=
    split "/tables/" written _
  rw [whole, List.takeWhile_append_of_pos front, nothing, List.append_nil]

theorem get_table (segment name : String) (decoded : Percent.decode segment = some name) :
    get title store connection (tablePrefix ++ segment.toList) =
      tableRows store connection name := by
  have second : (tablePrefix ++ segment.toList).tail.head? = some 't' := by
    rw [tablePrefix_eq]
    rfl
  have home : tablePrefix ++ segment.toList ≠ ['/'] := by
    intro same
    rw [same] at second
    cases second
  have described : tablePrefix ++ segment.toList ≠ "/openapi.json".toList := by
    intro same
    rw [same] at second
    exact absurd second (by decide)
  have asked : tableSegment? (tablePrefix ++ segment.toList) = some segment := by
    rw [tableSegment?, if_pos (by simp), List.drop_left, String.ofList_toList]
  rw [get, if_neg home, if_neg described, asked]
  simp only [decoded]

theorem route_tableUrl (search : Option String)
    (encoded : Percent.Encodes isPlain table.toList written.toList) :
    route title store connection "GET" (tableUrl written search) =
      tableRows store connection table := by
  have decoded : Percent.decode written = some table :=
    Percent.decode_encodes (fun c plain => plain.1) encoded
  have visible : '?' ∉ written.toList := by
    apply encoded.not_mem
    next => exact fun plain => plain.2 rfl
    next => decide
    next => decide
  rw [route, path_tableUrl search visible, if_neg (by decide), if_pos rfl]
  exact get_table written table decoded

theorem tableRows_selected {c : E.Connection} {selection : Selection}
    (selected : E.select store c table = .ok selection) :
    tableRows store (some c) table = ⟨200, some selection.toRows.toJson⟩ := by
  rw [tableRows, selected]

theorem tableRows_refused {c : E.Connection} {e : StorageError}
    (refused : E.select store c table = .error e) :
    tableRows store (some c) table = .detail 404 (EvalError.storage e).message := by
  rw [tableRows, refused]
  rfl

end Service

namespace Session

variable {s : Session E} {service : ApiService} {host : Host}

-- the service asks its own slot, and the session has no other
theorem Reached.answer_tableUrl (reached : s.Reached) (listens : service ∈ s.listening)
    {table written : String} (search : Option String)
    (encoded : Percent.Encodes Service.isPlain table.toList written.toList) :
    s.answer service "GET" (Service.tableUrl written search) =
      Service.tableRows s.store s.connection table := by
  have slot : service.storage = s.storage := reached.shared service listens
  rw [answer, Service.route_tableUrl search encoded, slot, connection]

theorem request_of_connect (runs : s.service = some service)
    (connects : host.connect service.endpoint = .ok ()) (method url : String) :
    s.request host method url = .ok (some (s.answer service method url)) := by
  rw [request, runs]
  dsimp only
  rw [connects]
  rfl

theorem table_route_agrees_with_query (s : Session E) (reached : s.Reached)
    (settings : Settings) (service : ApiService) (listens : service ∈ s.listening)
    (table written : String) (search : Option String)
    (encoded : Percent.Encodes Service.isPlain table.toList written.toList) :
    let url := Service.tableUrl written search
    let answer := s.answer service "GET" url
    let outcome := (Builtin.dbQuery.call settings [.str table]).run.run s
    (answer.status = 503 ↔ outcome.1 = .error (.noDatabase .dbQuery)) ∧
    (answer.status = 404 ↔ ∃ e, outcome.1 = .error (.storage e)) ∧
    (∀ e, outcome.1 = .error (.storage e) →
      answer.body = some (.object [("detail", .string (EvalError.storage e).message)])) ∧
    (outcome.1 ≠ .error (.noDatabase .dbQuery) → (∀ e, outcome.1 ≠ .error (.storage e)) →
      ∃ c selection, s.connection = some c ∧ E.select s.store c table = .ok selection ∧
        outcome = (.ok (), { s with
          events := s.events ++ .step "Step: Fetching data" :: selection.toRows.lines }) ∧
        answer = ⟨200, some selection.toRows.toJson⟩ ∧
        (∀ row ∈ selection.toRows.rows, row.length = selection.columns.length) ∧
        (selection.columns.Nodup → answer = ⟨200, some selection.toRows.document⟩)) ∧
    ∀ host, s.service = some service → host.connect service.endpoint = .ok () →
      s.request host "GET" url = .ok (some answer) := by
  intro url answer outcome
  have asked : ∀ host, s.service = some service → host.connect service.endpoint = .ok () →
      s.request host "GET" url = .ok (some answer) :=
    fun _ runs connects => request_of_connect runs connects _ _
  have answered : answer = Service.tableRows s.store s.connection table :=
    reached.answer_tableUrl listens search encoded
  have queried : outcome = (Builtin.query (.str table)).run.run s := rfl
  clear_value answer outcome
  rcases Option.eq_none_or_eq_some s.connection with connected | ⟨c, connected⟩
  next =>
    rw [connected] at answered
    rw [Builtin.run_query_unconnected connected] at queried
    subst answered queried
    exact ⟨by simp [Service.tableRows, Response.detail],
      by simp [Service.tableRows, Response.detail], by simp, by simp, asked⟩
  next =>
    rw [connected] at answered
    cases selected : E.select s.store c table with
    | error e =>
      rw [Service.tableRows_refused selected] at answered
      rw [Builtin.run_query_refused connected selected] at queried
      subst answered queried
      refine ⟨by simp [Response.detail], by simp [Response.detail], ?_, by simp, asked⟩
      intro e same
      cases same
      rfl
    | ok selection =>
      rw [Service.tableRows_selected selected] at answered
      rw [Builtin.run_query connected selected] at queried
      subst answered queried
      refine ⟨by simp, by simp, by simp, fun _ _ => ?_, asked⟩
      refine ⟨c, selection, connected, selected, rfl, rfl, selection.length_of_mem_rows, ?_⟩
      intro distinct
      rw [selection.toJson_toRows distinct]

def countColumn : Dict Value := .ofEntries [(.str "n", .str "int")]

def countRow : Dict Value := .ofEntries [(.str "n", .int 7)]

def onLoopback : Settings := ⟨.isolated, ⟨.v4 [127, 0, 0, 1], 0⟩⟩

def counting : Session .inMemory :=
  let serving := ((Builtin.createApi.call onLoopback [.str "Shop"]).run.run .empty).2
  let connected := ((Builtin.connectDb.call onLoopback [.str ""]).run.run serving).2
  let created :=
    ((Builtin.dbCreateTable.call onLoopback [.str "é?%", .dict countColumn]).run.run connected).2
  let filled := ((Builtin.dbInsert.call onLoopback [.str "é?%", .dict countRow]).run.run created).2
  ((Builtin.createApi.call onLoopback [.str "Store"]).run.run filled).2

theorem reached_counting : counting.Reached :=
  ((((Reached.empty.call onLoopback .createApi _).call onLoopback .connectDb _).call onLoopback
    .dbCreateTable _).call onLoopback .dbInsert _).call onLoopback .createApi _

def countTable (rows : List Row) : Database :=
  ⟨[.ofStored "é?%" ⟨[("n", .integer)], rows⟩]⟩

theorem counting_spec :
    counting.connection = some (0 : Nat) ∧ counting.store = [countTable [⟨1, [.integer 7]⟩]] ∧
      counting.listening.getLast? = some ⟨"Shop", ⟨.v4 [127, 0, 0, 1], 49152⟩, 0⟩ := by
  have declared : Builtin.declarations countColumn = [("n", "int")] := by
    rw [Builtin.declarations, countColumn,
      Dict.entries_ofEntries _ (by simp [Dict.Distinct, Dict.keys])]
    rfl
  have made : Database.empty.create "é?%" (Builtin.declarations countColumn) =
      .ok (countTable []) := by
    rw [declared, Database.create_bare (by decide) (by simp) rfl
      (List.forall_mem_singleton.mpr TableCall.int_type.1) rfl]
    simp only [List.map_cons, List.map_nil, TableCall.int_type.2]
    rfl
  have known : Builtin.cells countRow.entries = .ok [("n", .integer 7)] := by
    rw [countRow, Dict.entries_ofEntries _ (by simp [Dict.Distinct, Dict.keys])]
    rfl
  have inserted : (countTable []).insert "é?%" [("n", .integer 7)] =
      .ok (countTable [⟨1, [.integer 7]⟩]) := rfl
  simp only [counting, Builtin.call]
  rw [Builtin.run_createTable rfl (Database.create_at rfl made),
    Builtin.run_insertRow rfl known (Database.insert_at rfl inserted)]
  exact ⟨rfl, rfl, rfl⟩

theorem encodes_counting :
    Percent.Encodes Service.isPlain "é?%".toList "%C3%a9%3f%25".toList := by
  have name : "é?%".toList = ['é', '?', '%'] := String.toList_ofList
  have path : "%C3%a9%3f%25".toList =
    ['%', 'C', '3', '%', 'a', '9'] ++ (['%', '3', 'f'] ++ (['%', '2', '5'] ++ [])) :=
    String.toList_ofList
  rw [name, path]
  refine .escaped 'é' _ _ _ (.cons 0xC3 _ _ true false (.cons 0xA9 _ _ false true .nil)) ?_
  refine .escaped '?' _ _ _ (.cons 0x3F _ _ true false .nil) ?_
  exact .escaped '%' _ _ _ (.cons 0x25 _ _ false false .nil) .nil

-- A service that was replaced is asked, after a program has failed.
theorem table_route_agrees_with_query_escaped :
    let s := (counting.run onLoopback [.expr (.call "close_db" [])]).2
    let shop : ApiService := ⟨"Shop", ⟨.v4 [127, 0, 0, 1], 49152⟩, 0⟩
    s.Reached ∧ shop ∈ s.listening ∧
      Percent.Encodes Service.isPlain "é?%".toList "%C3%a9%3f%25".toList ∧
      s.answer shop "GET" (Service.tableUrl "%C3%a9%3f%25" (some "n=7")) =
        ⟨200, some (.array [.object [("n", .int 7)]])⟩ := by
  intro s shop
  have reached : s.Reached := reached_counting.run onLoopback _
  have connected : s.connection = some (0 : Nat) := counting_spec.1
  have stored : s.store = [countTable [⟨1, [.integer 7]⟩]] := counting_spec.2.1
  have listens : shop ∈ s.listening := List.mem_of_getLast? counting_spec.2.2
  have selected : Engine.inMemory.select s.store (0 : Nat) "é?%" =
      .ok (Table.ofStored "é?%" ⟨[("n", .integer)], [⟨1, [.integer 7]⟩]⟩).selection := by
    rw [stored]
    rfl
  have queried := Builtin.run_query connected selected
  obtain ⟨-, -, -, shown, -⟩ := table_route_agrees_with_query s reached onLoopback shop listens
    "é?%" _ (some "n=7") encodes_counting
  obtain ⟨c, selection, same, there, -, -, -, answer⟩ := shown
    (by rw [Builtin.call, queried]; simp) (by rw [Builtin.call, queried]; simp)
  cases connected.symm.trans same
  cases selected.symm.trans there
  exact ⟨reached, listens, encodes_counting, answer (List.pairwise_singleton _ _)⟩

end Session

end TableScript
