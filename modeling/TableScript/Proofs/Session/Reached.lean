import TableScript.Session.Run

set_option autoImplicit false

namespace TableScript

variable {E : Engine}

namespace Session

inductive Reached : Session E → Prop where
  | empty : Reached .empty
  | call {s : Session E} (settings : Settings) (b : Builtin) (args : List Value) (h : Reached s) :
      Reached ((b.call settings args).run.run s).2
  | assign {s : Session E} (name : String) (v : Value) (h : Reached s) :
      Reached { s with environment := s.environment.set name v }
  | quiet {s : Session E} (h : Reached s) : Reached s.quiet
  | shutdown {s : Session E} (h : Reached s) : Reached s.shutdown

/-- Every service that listens was handed the slot of the session. -/
def Shared (s : Session E) : Prop := ∀ service ∈ s.listening, service.storage = s.storage

end Session

namespace Run

variable {α β : Type} {P : Session E → Prop}

structure Keeps (P : Session E → Prop) (x : Run E α) : Prop where
  after : ∀ s, P s → P (x.run.run s).2

theorem keeps_pure (a : α) : Keeps P (pure a : Run E α) where
  after _ h := h

theorem keeps_throw (e : EvalError) : Keeps P (throw e : Run E α) where
  after _ h := h

theorem Keeps.bind {x : Run E α} {f : α → Run E β} (first : Keeps P x) (next : ∀ a, Keeps P (f a)) :
    Keeps P (x >>= f) where
  after s h := by
    have middle := first.after s h
    rw [run_bind]
    generalize x.run.run s = done at middle
    obtain ⟨_ | a, after⟩ := done
    next => exact middle
    next => exact (next a).after after middle

-- what comes next may depend on the session, of which `P` is known then
theorem keeps_get {f : Session E → Run E α} (next : ∀ s, P s → P ((f s).run.run s).2) :
    Keeps P (get >>= f) where
  after := next

theorem keeps_lift {ε : Type} (lift : Except ε α → Run E α) (wrap : ε → EvalError)
    (ok : ∀ a, lift (.ok a) = pure a) (error : ∀ e, lift (.error e) = throw (wrap e))
    (r : Except ε α) : Keeps P (lift r) := by
  cases r with
  | ok a => exact ok a ▸ keeps_pure a
  | error e => exact error e ▸ keeps_throw (wrap e)

theorem keeps_ofOperator (r : Except OperatorError α) : Keeps P (ofOperator r : Run E α) :=
  keeps_lift ofOperator .operator (fun _ => rfl) (fun _ => rfl) r

end Run

namespace Expr

open Run Session

theorem keeps_bindTo (name : String) (v : Value) :
    Keeps Reached (bindTo name v : Run E Unit) where
  after _ h := h.assign name v

theorem keeps_lookUp (name : String) : Keeps Reached (lookUp name : Run E Value) := by
  apply keeps_get
  intro s h
  cases s.environment.get? name with
  | some v => exact h
  | none => exact h

mutual

theorem keeps_evalIn (settings : Settings) (passOn : Bool) (e : Expr) :
    Keeps Reached (evalIn settings passOn e : Run E Value) := by
  cases e with
  | int | str | bool => exact keeps_pure _
  | var name => exact keeps_lookUp name
  | dict entries =>
    apply Keeps.bind (keeps_evalEntries settings Dict.empty entries)
    intro d
    exact keeps_pure _
  | binary op left right =>
    apply Keeps.bind (keeps_evalIn settings false left)
    intro v
    apply Keeps.bind (keeps_evalIn settings false right)
    intro w
    exact keeps_ofOperator _
  | unary op operand =>
    apply Keeps.bind (keeps_evalIn settings false operand)
    intro v
    exact keeps_ofOperator _
  | assign target value =>
    apply Keeps.bind (keeps_evalIn settings true value)
    intro v
    apply Keeps.bind (keeps_bindTo target v)
    intro _
    exact keeps_pure _
  | call function args =>
    unfold evalIn
    cases Builtin.ofName? function with
    | none => exact keeps_throw _
    | some b =>
      apply Keeps.bind (keeps_evalAll settings args)
      intro vs
      apply Keeps.bind ⟨fun _ h => Reached.call settings b vs h⟩
      intro _
      exact keeps_pure _
  | index container position =>
    apply Keeps.bind (keeps_evalIn settings false container)
    intro v
    apply Keeps.bind (keeps_evalIn settings false position)
    intro i
    exact keeps_lift ofIndex .index (fun _ => rfl) (fun _ => rfl) _

theorem keeps_evalAll (settings : Settings) (es : List Expr) :
    Keeps Reached (evalAll settings es : Run E (List Value)) := by
  cases es with
  | nil => exact keeps_pure _
  | cons e rest =>
    apply Keeps.bind (keeps_evalIn settings false e)
    intro v
    apply Keeps.bind (keeps_evalAll settings rest)
    intro vs
    exact keeps_pure _

theorem keeps_evalEntries (settings : Settings) (d : Dict Value) (entries : List (Expr × Expr)) :
    Keeps Reached (evalEntries settings d entries : Run E (Dict Value)) := by
  match entries with
  | [] => exact keeps_pure _
  | (key, value) :: rest =>
    apply Keeps.bind (keeps_evalIn settings false key)
    intro k
    apply Keeps.bind (keeps_evalIn settings false value)
    intro v
    apply Keeps.bind (keeps_ofOperator _)
    intro grown
    exact keeps_evalEntries settings grown rest

end

end Expr

namespace Stmt

open Run Session

mutual

theorem keeps_run (settings : Settings) (s : Stmt) :
    Keeps Reached (run settings s : Run E Unit) := by
  cases s with
  | expr e =>
    apply Keeps.bind (Expr.keeps_evalIn settings false e)
    intro _
    exact keeps_pure _
  | conditional condition body elifs otherwise =>
    apply Keeps.bind (Expr.keeps_evalIn settings false condition)
    intro v
    split
    next => exact keeps_runAll settings body
    next => exact keeps_runElifs settings elifs _ (keeps_runOtherwise settings otherwise)

theorem keeps_runAll (settings : Settings) (all : List Stmt) :
    Keeps Reached (runAll settings all : Run E Unit) := by
  cases all with
  | nil => exact keeps_pure _
  | cons s rest =>
    apply Keeps.bind (keeps_run settings s)
    intro _
    exact keeps_runAll settings rest

theorem keeps_runElifs (settings : Settings) (elifs : List (Expr × List Stmt))
    (lastResort : Run E Unit)
    (last : Keeps Reached lastResort) : Keeps Reached (runElifs settings elifs lastResort) := by
  match elifs with
  | [] => exact last
  | (condition, body) :: rest =>
    apply Keeps.bind (Expr.keeps_evalIn settings false condition)
    intro v
    split
    next => exact keeps_runAll settings body
    next => exact keeps_runElifs settings rest lastResort last

theorem keeps_runOtherwise (settings : Settings) (otherwise : Option (List Stmt)) :
    Keeps Reached (runOtherwise settings otherwise : Run E Unit) := by
  cases otherwise with
  | none => exact keeps_pure _
  | some body => exact keeps_runAll settings body

end

end Stmt

-- A program, whole or cut short by an error, leads to a session that its steps reach.
theorem Session.Reached.run {s : Session E} (h : s.Reached) (settings : Settings) (p : Program) :
    (s.run settings p).2.Reached :=
  (Stmt.keeps_runAll settings p).after s h

namespace Builtin

open Run Session

theorem keeps_report (e : Event) : Keeps Shared (report e : Run E Unit) where
  after _ h := h

theorem keeps_textArgument (b : Builtin) (argument : String) (v : Value) :
    Keeps Shared (textArgument b argument v : Run E String) := by
  unfold textArgument
  cases v.text? with
  | some s => exact keeps_pure s
  | none => exact keeps_throw _

theorem keeps_dictArgument (b : Builtin) (argument : String) (v : Value) :
    Keeps Shared (dictArgument b argument v : Run E (Dict Value)) := by
  cases v with
  | dict d => exact keeps_pure d
  | _ => exact keeps_throw _

theorem keeps_connection (b : Builtin) : Keeps Shared (connection b : Run E E.Connection) := by
  apply keeps_get
  intro s h
  cases s.connection with
  | some connection => exact h
  | none => exact h

theorem keeps_perform {α : Type} (heading message : String)
    (attempt : E.State → Except StorageError α) (keep : α → Session E → Session E)
    (kept : ∀ a s, Shared s → Shared (keep a s)) :
    Keeps Shared (perform heading attempt keep message) := by
  apply Keeps.bind (keeps_report _)
  intro _
  apply keeps_get
  intro s h
  cases attempt s.store with
  | error e => exact h
  | ok a => exact kept a s h

theorem keeps_connect (path : Value) : Keeps Shared (connect path : Run E Unit) := by
  apply Keeps.bind (keeps_textArgument _ _ _)
  intro path
  -- what is installed changes, but not where
  exact keeps_perform _ _ _ _ fun _ _ h => h

-- the new service is handed the slot, and all others were
theorem keeps_start (title : String) (endpoint : Endpoint) :
    Keeps Shared (modify fun s => s.start ⟨title, endpoint, s.storage⟩ : Run E Unit) where
  after s h := by
    intro service listens
    rcases List.mem_cons.mp listens with rfl | before
    next => rfl
    next => exact h service before

theorem keeps_serve (settings : Settings) (title : Value) :
    Keeps Shared (serve settings title : Run E Unit) := by
  apply Keeps.bind (keeps_textArgument _ _ _)
  intro title
  apply Keeps.bind (keeps_report _)
  intro _
  apply keeps_get
  intro s h
  dsimp only
  cases settings.host.bind (s.listening.map (·.endpoint)) settings.endpoint with
  | error e => exact h
  | ok endpoint => exact (keeps_start title endpoint).after s h

theorem keeps_createTable (table columns : Value) :
    Keeps Shared (createTable table columns : Run E Unit) := by
  apply Keeps.bind (keeps_connection _)
  intro connection
  apply Keeps.bind (keeps_textArgument _ _ _)
  intro table
  apply Keeps.bind (keeps_dictArgument _ _ _)
  intro columns
  exact keeps_perform _ _ _ _ fun _ _ h => h

theorem keeps_cells (entries : List (Key × Value)) :
    Keeps Shared (ExceptT.mk (pure (cells entries)) : Run E _) :=
  keeps_lift (fun r => ExceptT.mk (pure r)) id (fun _ => rfl) (fun _ => rfl) (cells entries)

theorem keeps_insertRow (table row : Value) : Keeps Shared (insertRow table row : Run E Unit) := by
  apply Keeps.bind (keeps_connection _)
  intro connection
  apply Keeps.bind (keeps_textArgument _ _ _)
  intro table
  apply Keeps.bind (keeps_dictArgument _ _ _)
  intro row
  apply Keeps.bind (keeps_cells _)
  intro given
  exact keeps_perform _ _ _ _ fun _ _ h => h

theorem keeps_reportRows (lines : List String) : Keeps Shared (reportRows lines : Run E Unit) := by
  induction lines with
  | nil => exact keeps_pure ()
  | cons line rest ih => exact Keeps.bind (keeps_report _) fun _ => ih

theorem keeps_query (table : Value) : Keeps Shared (query table : Run E Unit) := by
  apply Keeps.bind (keeps_connection _)
  intro connection
  apply Keeps.bind (keeps_textArgument _ _ _)
  intro table
  apply Keeps.bind (keeps_report _)
  intro _
  apply keeps_get
  intro s h
  cases E.select s.store connection table with
  | error e => exact h
  | ok selection => exact (keeps_reportRows _).after s h

theorem keeps_call (settings : Settings) (b : Builtin) (args : List Value) :
    Keeps Shared (b.call settings args : Run E Unit) := by
  unfold call
  split
  next => exact keeps_report _
  next => exact keeps_connect _
  next => exact keeps_serve settings _
  next => exact keeps_createTable _ _
  next => exact keeps_insertRow _ _
  next => exact keeps_query _
  next =>
    split
    next => exact keeps_throw _
    next => exact keeps_pure ()

end Builtin

theorem Session.Reached.shared {s : Session E} (h : s.Reached) : s.Shared := by
  induction h with
  | empty =>
    intro service listens
    cases listens
  | call settings b args _ ih => exact (Builtin.keeps_call settings b args).after _ ih
  | assign _ _ _ ih => exact ih
  | quiet _ ih => exact ih
  | shutdown _ ih =>
    intro service listens
    exact ih service (List.mem_append_right _ listens)

end TableScript
