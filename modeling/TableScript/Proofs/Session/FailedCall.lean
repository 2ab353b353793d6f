import TableScript.Session.Run
import TableScript.Storage.Database

set_option autoImplicit false

namespace TableScript

variable {E : Engine}

/-- Whether an error is found while a call is checked, before it says what it is about to do. -/
def EvalError.early : EvalError → Bool
  | .storage _ | .cannotBind _ _ => false
  | _ => true

namespace Run

variable {α β : Type} {heading : String}

structure Checks (x : Run E α) : Prop where
  keeps : ∀ s, (x.run.run s).2 = s
  early : ∀ s e after, x.run.run s = (.error e, after) → e.early = true

def Attempts (x : Run E α) : Prop :=
  ∀ s e after, x.run.run s = (.error e, after) → after = s ∧ e.early = false

def Succeeds (x : Run E α) : Prop := ∀ s e after, x.run.run s ≠ (.error e, after)

def Announces (heading : String) (x : Run E α) : Prop :=
  ∀ s e after, x.run.run s = (.error e, after) →
    after = if e.early then s else s.report (.step heading)

theorem run_bind_error {x : Run E α} {f : α → Run E β} {s after : Session E} {e : EvalError}
    (h : (x >>= f).run.run s = (.error e, after)) :
    x.run.run s = (.error e, after) ∨
      ∃ a middle, x.run.run s = (.ok a, middle) ∧ (f a).run.run middle = (.error e, after) := by
  rw [run_bind] at h
  generalize x.run.run s = first at h
  obtain ⟨_ | a, middle⟩ := first
  next =>
    cases h
    exact .inl rfl
  next => exact .inr ⟨a, middle, rfl, h⟩

theorem succeeds_modify (change : Session E → Session E) :
    Succeeds (modify change : Run E Unit) := by
  intro s e after h
  cases h

theorem succeeds_report (event : Event) : Succeeds (report event : Run E Unit) :=
  succeeds_modify _

theorem Succeeds.bind {x : Run E α} {f : α → Run E β} (first : Succeeds x)
    (next : ∀ a, Succeeds (f a)) : Succeeds (x >>= f) := by
  intro s e after h
  rcases run_bind_error h with failed | ⟨a, middle, -, failed⟩
  next => exact first s e after failed
  next => exact next a middle e after failed

theorem checks_pure (a : α) : Checks (pure a : Run E α) where
  keeps _ := rfl
  early _ _ _ h := by cases h

theorem checks_throw (e : EvalError) (early : e.early = true) : Checks (throw e : Run E α) where
  keeps _ := rfl
  early _ _ _ h := by
    cases h
    exact early

theorem attempts_throw (e : EvalError) (late : e.early = false) : Attempts (throw e : Run E α) := by
  intro s e' after h
  cases h
  exact ⟨rfl, late⟩

theorem Succeeds.attempts {x : Run E α} (h : Succeeds x) : Attempts x :=
  fun s e after failed => absurd failed (h s e after)

theorem Succeeds.announces {x : Run E α} (h : Succeeds x) : Announces heading x :=
  fun s e after failed => absurd failed (h s e after)

-- a step may look at the whole session before it goes on
theorem checks_get {f : Session E → Run E α} (next : ∀ s, Checks (f s)) : Checks (get >>= f) where
  keeps s := (next s).keeps s
  early s := (next s).early s

theorem attempts_get {f : Session E → Run E α} (next : ∀ s, Attempts (f s)) :
    Attempts (get >>= f) :=
  fun s => next s s

theorem attempts_ofStorage {f : α → Run E β} (r : Except StorageError α)
    (next : ∀ a, Succeeds (f a)) : Attempts (ofStorage r >>= f) := by
  cases r with
  | ok a => exact (next a).attempts
  | error e => exact attempts_throw (.storage e) rfl

theorem Checks.announces {x : Run E α} (h : Checks x) : Announces heading x := by
  intro s e after failed
  have kept := h.keeps s
  rw [failed] at kept
  rw [if_pos (h.early s e after failed), ← kept]

theorem Checks.bind {x : Run E α} {f : α → Run E β} (first : Checks x)
    (next : ∀ a, Announces heading (f a)) : Announces heading (x >>= f) := by
  intro s e after h
  rcases run_bind_error h with failed | ⟨a, middle, checked, failed⟩
  next => exact first.announces s e after failed
  next =>
    have kept := first.keeps s
    rw [checked] at kept
    rw [← kept]
    exact next a middle e after failed

theorem Attempts.announced {x : Run E α} (h : Attempts x) :
    Announces heading (report (.step heading) >>= fun _ => x) := by
  intro s e after failed
  obtain ⟨kept, late⟩ := h (s.report (.step heading)) e after failed
  rw [kept, late]
  rfl

end Run

namespace Builtin

open Run

theorem checks_textArgument (b : Builtin) (argument : String) (v : Value) :
    Checks (textArgument b argument v : Run E String) := by
  unfold textArgument
  cases v.text? with
  | some s => exact checks_pure s
  | none => exact checks_throw _ rfl

theorem checks_dictArgument (b : Builtin) (argument : String) (v : Value) :
    Checks (dictArgument b argument v : Run E (Dict Value)) := by
  cases v with
  | dict d => exact checks_pure d
  | _ => exact checks_throw _ rfl

theorem checks_connection (b : Builtin) : Checks (connection b : Run E E.Connection) := by
  apply checks_get
  intro s
  cases s.connection with
  | some connection => exact checks_pure connection
  | none => exact checks_throw _ rfl

theorem early_of_cells (entries : List (Key × Value)) (e : EvalError)
    (h : cells entries = .error e) :
    e.early = true := by
  fun_induction cells entries with
  | case1 => cases h
  | case2 k v rest unbindable =>
    cases h
    rfl
  | case3 k v rest cell bindable ih =>
    cases others : cells rest with
    | ok given => simp [others, Except.map] at h
    | error e' =>
      simp only [others, Except.map, Except.error.injEq] at h
      exact ih (others.trans (congrArg Except.error h))

theorem checks_cells (entries : List (Key × Value)) :
    Checks (ExceptT.mk (pure (cells entries)) : Run E _) where
  keeps _ := rfl
  early s e after h := by
    have failed : cells entries = .error e := congrArg Prod.fst h
    exact early_of_cells entries e failed

theorem announces_perform {α : Type} (heading message : String)
    (attempt : E.State → Except StorageError α) (keep : α → Session E → Session E) :
    Announces heading (perform heading attempt keep message) := by
  apply Attempts.announced
  apply attempts_get
  intro s
  apply attempts_ofStorage
  intro a
  exact (succeeds_modify _).bind fun _ => succeeds_report _

theorem announces_connect (path : Value) :
    Announces "Step: Connecting to the database" (connect path : Run E Unit) := by
  apply (checks_textArgument _ _ _).bind
  intro path
  exact announces_perform _ _ _ _

theorem announces_serve (settings : Settings) (title : Value) :
    Announces "Step: Creating the API" (serve settings title : Run E Unit) := by
  apply (checks_textArgument _ _ _).bind
  intro title
  apply Attempts.announced
  apply attempts_get
  intro s
  dsimp only
  cases settings.host.bind (s.listening.map (·.endpoint)) settings.endpoint with
  | error e => exact attempts_throw _ rfl
  | ok endpoint => exact ((succeeds_modify _).bind fun _ => succeeds_report _).attempts

theorem announces_createTable (table columns : Value) :
    Announces "Step: Creating table" (createTable table columns : Run E Unit) := by
  apply (checks_connection _).bind
  intro connection
  apply (checks_textArgument _ _ _).bind
  intro table
  apply (checks_dictArgument _ _ _).bind
  intro columns
  exact announces_perform _ _ _ _

theorem announces_insertRow (table row : Value) :
    Announces "Step: Inserting data" (insertRow table row : Run E Unit) := by
  apply (checks_connection _).bind
  intro connection
  apply (checks_textArgument _ _ _).bind
  intro table
  apply (checks_dictArgument _ _ _).bind
  intro row
  apply (checks_cells _).bind
  intro given
  exact announces_perform _ _ _ _

theorem succeeds_reportRows (lines : List String) : Succeeds (reportRows lines : Run E Unit) := by
  induction lines with
  | nil => exact fun _ _ _ h => by cases h
  | cons line rest ih => exact (succeeds_report _).bind fun _ => ih

theorem announces_query (table : Value) :
    Announces "Step: Fetching data" (query table : Run E Unit) := by
  apply (checks_connection _).bind
  intro connection
  apply (checks_textArgument _ _ _).bind
  intro table
  apply Attempts.announced
  apply attempts_get
  intro s
  apply attempts_ofStorage
  intro selection
  exact succeeds_reportRows _

theorem announces_call (settings : Settings) (b : Builtin) (args : List Value) :
    ∃ heading, Announces heading (b.call settings args : Run E Unit) := by
  unfold call
  split
  next => exact ⟨"", (succeeds_report _).announces⟩
  next => exact ⟨_, announces_connect _⟩
  next => exact ⟨_, announces_serve settings _⟩
  next => exact ⟨_, announces_createTable _ _⟩
  next => exact ⟨_, announces_insertRow _ _⟩
  next => exact ⟨_, announces_query _⟩
  next =>
    refine ⟨"", Checks.announces ?_⟩
    split
    next => exact checks_throw _ rfl
    next => exact checks_pure ()

end Builtin

structure Session.KeptBy (s : Session E) (e : EvalError) (after : Session E) : Prop where
  environment : after.environment = s.environment
  store : after.store = s.store
  slots : after.slots = s.slots
  storage : after.storage = s.storage
  service : after.service = s.service
  replaced : after.replaced = s.replaced
  events : if e.early then after.events = s.events
    else ∃ heading, after.events = s.events ++ [.step heading]

theorem Run.Announces.keptBy {α : Type} {heading : String} {x : Run E α} (h : Announces heading x)
    (s : Session E) (e : EvalError) (after : Session E) (failed : x.run.run s = (.error e, after)) :
    s.KeptBy e after := by
  have left := h s e after failed
  cases early : e.early with
  | true =>
    rw [early, if_pos rfl] at left
    subst left
    exact ⟨rfl, rfl, rfl, rfl, rfl, rfl, by simp [early]⟩
  | false =>
    rw [early] at left
    subst left
    exact ⟨rfl, rfl, rfl, rfl, rfl, rfl, by simpa [early] using ⟨heading, rfl⟩⟩

theorem Builtin.failed_call_keeps_session (settings : Settings) (b : Builtin) :
    (∀ (args : List Value) (s : Session E) (e : EvalError) (after : Session E),
      (b.call settings args).run.run s = (.error e, after) → s.KeptBy e after) ∧
    ∀ (passOn : Bool) (args : List Expr) (vs : List Value) (s middle : Session E) (e : EvalError)
      (after : Session E),
      (Expr.evalAll settings args).run.run s = (.ok vs, middle) →
      (Expr.evalIn settings passOn (.call b.name args)).run.run s = (.error e, after) →
      middle.KeptBy e after := by
  have kept (args : List Value) (s : Session E) (e : EvalError) (after : Session E)
      (failed : (b.call settings args).run.run s = (.error e, after)) : s.KeptBy e after := by
    obtain ⟨heading, announces⟩ := announces_call (E := E) settings b args
    exact announces.keptBy s e after failed
  refine ⟨kept, ?_⟩
  intro passOn args vs s middle e after evaluated failed
  apply kept vs middle e after
  rw [Expr.evalIn, ofName?_name] at failed
  dsimp only at failed
  rw [Run.run_bind, evaluated] at failed
  rcases Run.run_bind_error failed with failed | ⟨_, _, _, failed⟩
  next => exact failed
  next => cases failed

def Session.underWay : Session .inMemory :=
  { (Session.empty : Session .inMemory) with
    environment := ⟨[("x", .int 1)]⟩
    store := [.empty]
    slots := ⟨[(0, (0 : Nat))]⟩
    events := [.print "1"] }

theorem Builtin.failed_call_keeps_session_reconnecting :
    (call ⟨.isolated, ⟨.v4 [127, 0, 0, 1], 0⟩⟩ .connectDb [.str "no/such/file"]).run.run .underWay =
        (.error (.storage (Refusal.cannotOpen "no/such/file").reported),
          Session.underWay.report (.step "Step: Connecting to the database")) ∧
      Session.underWay.KeptBy (.storage (Refusal.cannotOpen "no/such/file").reported)
        (Session.underWay.report (.step "Step: Connecting to the database")) := by
  have failed : (call ⟨.isolated, ⟨.v4 [127, 0, 0, 1], 0⟩⟩ .connectDb
      [.str "no/such/file"]).run.run .underWay =
      (.error (.storage (Refusal.cannotOpen "no/such/file").reported),
        Session.underWay.report (.step "Step: Connecting to the database")) := rfl
  exact ⟨failed, (failed_call_keeps_session _ .connectDb).1 _ _ _ _ failed⟩

end TableScript
