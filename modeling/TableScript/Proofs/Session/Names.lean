import TableScript.Session.Run
import TableScript.Storage.Database

set_option autoImplicit false

namespace TableScript

variable {E : Engine}

namespace Expr

mutual

def mentions (readToo : Bool) : Expr → List String
  | .int _ | .str _ | .bool _ => []
  | .dict entries => mentionsEntries readToo entries
  | .binary _ left right => left.mentions readToo ++ right.mentions readToo
  | .unary _ operand => operand.mentions readToo
  | .var name => if readToo then [name] else []
  | .assign target value => target :: value.mentions readToo
  | .call _ args => mentionsAll readToo args
  | .index container position => container.mentions readToo ++ position.mentions readToo

def mentionsAll (readToo : Bool) : List Expr → List String
  | [] => []
  | e :: rest => e.mentions readToo ++ mentionsAll readToo rest

def mentionsEntries (readToo : Bool) : List (Expr × Expr) → List String
  | [] => []
  | (key, value) :: rest =>
    key.mentions readToo ++ (value.mentions readToo ++ mentionsEntries readToo rest)

end

end Expr

namespace Stmt

mutual

def mentions (readToo : Bool) : Stmt → List String
  | .expr e => e.mentions readToo
  | .conditional condition body elifs otherwise =>
    condition.mentions readToo ++ (mentionsAll readToo body ++
      (mentionsElifs readToo elifs ++ mentionsOtherwise readToo otherwise))

def mentionsAll (readToo : Bool) : List Stmt → List String
  | [] => []
  | s :: rest => s.mentions readToo ++ mentionsAll readToo rest

def mentionsElifs (readToo : Bool) : List (Expr × List Stmt) → List String
  | [] => []
  | (condition, body) :: rest =>
    condition.mentions readToo ++ (mentionsAll readToo body ++ mentionsElifs readToo rest)

def mentionsOtherwise (readToo : Bool) : Option (List Stmt) → List String
  | none => []
  | some body => mentionsAll readToo body

end

end Stmt

namespace Program

def names (p : Program) : List String := Stmt.mentionsAll true p

def targets (p : Program) : List String := Stmt.mentionsAll false p

end Program

/-- Sessions that are alike but for other variables than `names` and for what was reported. -/
structure Session.Agree (names : List String) (s t : Session E) : Prop where
  bindings : ∀ name ∈ names, s.environment.get? name = t.environment.get? name
  store : s.store = t.store
  slots : s.slots = t.slots
  storage : s.storage = t.storage
  service : s.service = t.service
  replaced : s.replaced = t.replaced

namespace Run

variable {α β : Type} {names targets : List String}

/-- A step that looks only at `names` and sets only `targets`. -/
structure Confined (names targets : List String) (x : Run E α) : Prop where
  same : ∀ s t : Session E, s.Agree names t → ∃ r after after' new, x.run.run s = (r, after) ∧
    x.run.run t = (r, after') ∧ after.Agree names after' ∧ after.events = s.events ++ new ∧
    after'.events = t.events ++ new
  keeps : ∀ (s : Session E) (name : String), name ∉ targets →
    (x.run.run s).2.environment.binding? name = s.environment.binding? name

theorem confined_pure (a : α) : Confined names targets (pure a : Run E α) where
  same s t agree := ⟨.ok a, s, t, [], rfl, rfl, agree, by simp, by simp⟩
  keeps _ _ _ := rfl

theorem confined_throw (e : EvalError) : Confined names targets (throw e : Run E α) where
  same s t agree := ⟨.error e, s, t, [], rfl, rfl, agree, by simp, by simp⟩
  keeps _ _ _ := rfl

theorem Confined.bind {x : Run E α} {f : α → Run E β} (first : Confined names targets x)
    (next : ∀ a, Confined names targets (f a)) : Confined names targets (x >>= f) where
  same s t agree := by
    obtain ⟨r, mid, mid', new, left, right, agree, events, events'⟩ := first.same s t agree
    rw [run_bind, run_bind, left, right]
    cases r with
    | error e => exact ⟨.error e, mid, mid', new, rfl, rfl, agree, events, events'⟩
    | ok a =>
      obtain ⟨r, after, after', more, left, right, agree, later, later'⟩ :=
        (next a).same mid mid' agree
      refine ⟨r, after, after', new ++ more, left, right, agree, ?_, ?_⟩
      next => rw [later, events, List.append_assoc]
      next => rw [later', events', List.append_assoc]
  keeps s name other := by
    have kept := first.keeps s name other
    rw [run_bind]
    generalize x.run.run s = middle at kept
    obtain ⟨e | a, mid⟩ := middle
    next => exact kept
    next => exact ((next a).keeps mid name other).trans kept

theorem confined_get (f : Session E → Run E α)
    (common : ∀ s t : Session E, s.Agree names t → f s = f t)
    (next : ∀ s, Confined names targets (f s)) : Confined names targets (get >>= f) where
  same s t agree := by
    obtain ⟨r, after, after', new, left, right, rest⟩ := (next s).same s t agree
    rw [common s t agree] at right
    exact ⟨r, after, after', new, left, right, rest⟩
  keeps s name other := (next s).keeps s name other

theorem confined_modify (change : Session E → Session E) (new : List Event)
    (agree : ∀ s t : Session E, s.Agree names t → (change s).Agree names (change t))
    (events : ∀ s, (change s).events = s.events ++ new)
    (keeps : ∀ (s : Session E) (name : String), name ∉ targets →
      (change s).environment.binding? name = s.environment.binding? name) :
    Confined names targets (modify change : Run E Unit) where
  same s t h := ⟨.ok (), change s, change t, new, rfl, rfl, agree s t h, events s, events t⟩
  keeps := keeps

theorem confined_report (e : Event) : Confined names targets (report e : Run E Unit) := by
  apply confined_modify _ [e]
  next => exact fun s t agree =>
    ⟨agree.bindings, agree.store, agree.slots, agree.storage, agree.service, agree.replaced⟩
  next => exact fun s => rfl
  next => exact fun s name other => rfl

theorem confined_lift {ε : Type} (lift : Except ε α → Run E α) (wrap : ε → EvalError)
    (ok : ∀ a, lift (.ok a) = pure a) (error : ∀ e, lift (.error e) = throw (wrap e))
    (r : Except ε α) : Confined names targets (lift r) := by
  cases r with
  | ok a => exact ok a ▸ confined_pure a
  | error e => exact error e ▸ confined_throw (wrap e)

theorem confined_ofOperator (r : Except OperatorError α) :
    Confined names targets (ofOperator r : Run E α) :=
  confined_lift ofOperator .operator (fun _ => rfl) (fun _ => rfl) r

theorem confined_ofIndex (r : Except IndexFault α) : Confined names targets (ofIndex r : Run E α) :=
  confined_lift ofIndex .index (fun _ => rfl) (fun _ => rfl) r

theorem confined_ofStorage (r : Except StorageError α) :
    Confined names targets (ofStorage r : Run E α) :=
  confined_lift ofStorage .storage (fun _ => rfl) (fun _ => rfl) r

end Run

namespace Builtin

open Run

variable {names targets : List String}

theorem confined_textArgument (b : Builtin) (argument : String) (v : Value) :
    Confined names targets (textArgument b argument v : Run E String) := by
  unfold textArgument
  cases v.text? with
  | some s => exact confined_pure s
  | none => exact confined_throw _

theorem confined_dictArgument (b : Builtin) (argument : String) (v : Value) :
    Confined names targets (dictArgument b argument v : Run E (Dict Value)) := by
  cases v with
  | dict d => exact confined_pure d
  | _ => exact confined_throw _

theorem confined_connection (b : Builtin) :
    Confined names targets (connection b : Run E E.Connection) := by
  apply confined_get
  next =>
    intro s t agree
    simp only [Session.connection, agree.slots, agree.storage]
  next =>
    intro s
    cases s.connection with
    | some connection => exact confined_pure connection
    | none => exact confined_throw _

theorem confined_perform {α : Type} (heading message : String)
    (attempt : E.State → Except StorageError α) (keep : α → Session E → Session E)
    (kept : ∀ a, Confined names targets (modify (keep a) : Run E Unit)) :
    Confined names targets (perform heading attempt keep message) := by
  apply Confined.bind (confined_report _)
  intro _
  apply confined_get
  next =>
    intro s t agree
    simp only [agree.store]
  next =>
    intro s
    apply Confined.bind (confined_ofStorage _)
    intro a
    apply Confined.bind (kept a)
    intro _
    exact confined_report _

theorem confined_withStore (store : E.State) :
    Confined names targets (modify fun s => s.withStore store : Run E Unit) := by
  apply confined_modify _ []
  next => exact fun s t agree =>
    ⟨agree.bindings, rfl, agree.slots, agree.storage, agree.service, agree.replaced⟩
  next => exact fun s => (List.append_nil _).symm
  next => exact fun s name other => rfl

theorem confined_opened (connection : E.Connection) (store : E.State) :
    Confined names targets
      (modify fun s => (s.withStore store).install connection : Run E Unit) := by
  apply confined_modify _ []
  next =>
    intro s t agree
    refine ⟨agree.bindings, rfl, ?_, agree.storage, agree.service, agree.replaced⟩
    simp only [Session.install, Session.withStore, agree.slots, agree.storage]
  next => exact fun s => (List.append_nil _).symm
  next => exact fun s name other => rfl

theorem confined_connect (path : Value) : Confined names targets (connect path : Run E Unit) := by
  apply Confined.bind (confined_textArgument _ _ _)
  intro path
  exact confined_perform _ _ _ _ fun opened => confined_opened opened.1 opened.2

theorem confined_start (title : String) (endpoint : Endpoint) :
    Confined names targets (modify fun s => s.start ⟨title, endpoint, s.storage⟩ : Run E Unit) := by
  apply confined_modify _ []
  next =>
    intro s t agree
    refine ⟨agree.bindings, agree.store, agree.slots, agree.storage, ?_, ?_⟩
    next => simp only [Session.start, agree.storage]
    next => simp only [Session.start, Session.listening, agree.service, agree.replaced]
  next => exact fun s => (List.append_nil _).symm
  next => exact fun s name other => rfl

theorem confined_serve (settings : Settings) (title : Value) :
    Confined names targets (serve settings title : Run E Unit) := by
  apply Confined.bind (confined_textArgument _ _ _)
  intro title
  apply Confined.bind (confined_report _)
  intro _
  apply confined_get
  next =>
    intro s t agree
    simp only [Session.listening, agree.service, agree.replaced]
  next =>
    intro s
    dsimp only
    cases settings.host.bind (s.listening.map (·.endpoint)) settings.endpoint with
    | error e => exact confined_throw _
    | ok endpoint =>
      apply Confined.bind (confined_start _ _)
      intro _
      exact confined_report _

theorem confined_createTable (table columns : Value) :
    Confined names targets (createTable table columns : Run E Unit) := by
  apply Confined.bind (confined_connection _)
  intro connection
  apply Confined.bind (confined_textArgument _ _ _)
  intro table
  apply Confined.bind (confined_dictArgument _ _ _)
  intro columns
  exact confined_perform _ _ _ _ confined_withStore

theorem confined_cells (entries : List (Key × Value)) :
    Confined names targets (ExceptT.mk (pure (cells entries)) : Run E _) :=
  confined_lift (fun r => ExceptT.mk (pure r)) id (fun _ => rfl) (fun _ => rfl) (cells entries)

theorem confined_insertRow (table row : Value) :
    Confined names targets (insertRow table row : Run E Unit) := by
  apply Confined.bind (confined_connection _)
  intro connection
  apply Confined.bind (confined_textArgument _ _ _)
  intro table
  apply Confined.bind (confined_dictArgument _ _ _)
  intro row
  apply Confined.bind (confined_cells _)
  intro given
  exact confined_perform _ _ _ _ confined_withStore

theorem confined_reportRows (lines : List String) :
    Confined names targets (reportRows lines : Run E Unit) := by
  induction lines with
  | nil => exact confined_pure ()
  | cons line rest ih => exact Confined.bind (confined_report _) fun _ => ih

theorem confined_query (table : Value) : Confined names targets (query table : Run E Unit) := by
  apply Confined.bind (confined_connection _)
  intro connection
  apply Confined.bind (confined_textArgument _ _ _)
  intro table
  apply Confined.bind (confined_report _)
  intro _
  apply confined_get
  next =>
    intro s t agree
    simp only [agree.store]
  next =>
    intro s
    apply Confined.bind (confined_ofStorage _)
    intro selection
    exact confined_reportRows _

theorem confined_call (settings : Settings) (b : Builtin) (args : List Value) :
    Confined names targets (b.call settings args : Run E Unit) := by
  unfold call
  split
  next => exact confined_report _
  next => exact confined_connect _
  next => exact confined_serve settings _
  next => exact confined_createTable _ _
  next => exact confined_insertRow _ _
  next => exact confined_query _
  next =>
    split
    next => exact confined_throw _
    next => exact confined_pure ()

end Builtin

namespace Expr

open Run

variable {names targets : List String}

theorem confined_lookUp (name : String) (known : name ∈ names) :
    Confined names targets (lookUp name : Run E Value) := by
  apply confined_get
  next =>
    intro s t agree
    simp only [agree.bindings name known]
  next =>
    intro s
    cases s.environment.get? name with
    | some v => exact confined_pure v
    | none => exact confined_throw _

theorem confined_bindTo (name : String) (v : Value) (target : name ∈ targets) :
    Confined names targets (bindTo name v : Run E Unit) := by
  apply confined_modify _ []
  next =>
    intro s t agree
    refine ⟨fun other known => ?_, agree.store, agree.slots, agree.storage, agree.service,
      agree.replaced⟩
    by_cases same : other = name
    next =>
      subst same
      simp only [Environment.get?, Environment.binding?_set_self]
    next =>
      have old := agree.bindings other known
      simp only [Environment.get?, Environment.binding?_set_of_ne _ _ _ _ same] at old ⊢
      exact old
  next => exact fun s => (List.append_nil _).symm
  next =>
    intro s other free
    apply Environment.binding?_set_of_ne
    rintro rfl
    exact free target

mutual

theorem confined_evalIn (settings : Settings) (passOn : Bool) (e : Expr)
    (reads : e.mentions true ⊆ names) (sets : e.mentions false ⊆ targets) :
    Confined names targets (evalIn settings passOn e : Run E Value) := by
  cases e with
  | int | str | bool => exact confined_pure _
  | var name => exact confined_lookUp name (reads (by simp [mentions]))
  | dict entries =>
    apply Confined.bind (confined_evalEntries settings Dict.empty entries reads sets)
    intro d
    exact confined_pure _
  | binary op left right =>
    simp only [mentions, List.append_subset] at reads sets
    apply Confined.bind (confined_evalIn settings false left reads.1 sets.1)
    intro v
    apply Confined.bind (confined_evalIn settings false right reads.2 sets.2)
    intro w
    exact confined_ofOperator _
  | unary op operand =>
    apply Confined.bind (confined_evalIn settings false operand reads sets)
    intro v
    exact confined_ofOperator _
  | assign target value =>
    simp only [mentions, List.cons_subset] at reads sets
    apply Confined.bind (confined_evalIn settings true value reads.2 sets.2)
    intro v
    apply Confined.bind (confined_bindTo target v sets.1)
    intro _
    exact confined_pure _
  | call function args =>
    unfold evalIn
    cases Builtin.ofName? function with
    | none => exact confined_throw _
    | some b =>
      apply Confined.bind (confined_evalAll settings args reads sets)
      intro vs
      apply Confined.bind (Builtin.confined_call settings b vs)
      intro _
      exact confined_pure _
  | index container position =>
    simp only [mentions, List.append_subset] at reads sets
    apply Confined.bind (confined_evalIn settings false container reads.1 sets.1)
    intro v
    apply Confined.bind (confined_evalIn settings false position reads.2 sets.2)
    intro i
    exact confined_ofIndex _

theorem confined_evalAll (settings : Settings) (es : List Expr)
    (reads : mentionsAll true es ⊆ names) (sets : mentionsAll false es ⊆ targets) :
    Confined names targets (evalAll settings es : Run E (List Value)) := by
  cases es with
  | nil => exact confined_pure _
  | cons e rest =>
    simp only [mentionsAll, List.append_subset] at reads sets
    apply Confined.bind (confined_evalIn settings false e reads.1 sets.1)
    intro v
    apply Confined.bind (confined_evalAll settings rest reads.2 sets.2)
    intro vs
    exact confined_pure _

theorem confined_evalEntries (settings : Settings) (d : Dict Value) (entries : List (Expr × Expr))
    (reads : mentionsEntries true entries ⊆ names)
    (sets : mentionsEntries false entries ⊆ targets) :
    Confined names targets (evalEntries settings d entries : Run E (Dict Value)) := by
  cases entries with
  | nil => exact confined_pure _
  | cons entry rest =>
    obtain ⟨key, value⟩ := entry
    simp only [mentionsEntries, List.append_subset] at reads sets
    apply Confined.bind (confined_evalIn settings false key reads.1 sets.1)
    intro k
    apply Confined.bind (confined_evalIn settings false value reads.2.1 sets.2.1)
    intro v
    apply Confined.bind (confined_ofOperator _)
    intro grown
    exact confined_evalEntries settings grown rest reads.2.2 sets.2.2

end

end Expr

namespace Stmt

open Run

variable {names targets : List String}

mutual

theorem confined_run (settings : Settings) (s : Stmt) (reads : s.mentions true ⊆ names)
    (sets : s.mentions false ⊆ targets) : Confined names targets (s.run settings : Run E Unit) := by
  cases s with
  | expr e =>
    apply Confined.bind (Expr.confined_evalIn settings false e reads sets)
    intro _
    exact confined_pure _
  | conditional condition body elifs otherwise =>
    simp only [mentions, List.append_subset] at reads sets
    apply Confined.bind (Expr.confined_evalIn settings false condition reads.1 sets.1)
    intro v
    split
    next => exact confined_runAll settings body reads.2.1 sets.2.1
    next =>
      apply confined_runElifs settings elifs _ reads.2.2.1 sets.2.2.1
      exact confined_runOtherwise settings otherwise reads.2.2.2 sets.2.2.2

theorem confined_runAll (settings : Settings) (p : List Stmt) (reads : mentionsAll true p ⊆ names)
    (sets : mentionsAll false p ⊆ targets) :
    Confined names targets (runAll settings p : Run E Unit) := by
  cases p with
  | nil => exact confined_pure ()
  | cons s rest =>
    simp only [mentionsAll, List.append_subset] at reads sets
    apply Confined.bind (confined_run settings s reads.1 sets.1)
    intro _
    exact confined_runAll settings rest reads.2 sets.2

theorem confined_runElifs (settings : Settings) (elifs : List (Expr × List Stmt))
    (lastResort : Run E Unit) (reads : mentionsElifs true elifs ⊆ names)
    (sets : mentionsElifs false elifs ⊆ targets) (last : Confined names targets lastResort) :
    Confined names targets (runElifs settings elifs lastResort) := by
  cases elifs with
  | nil => exact last
  | cons branch rest =>
    obtain ⟨condition, body⟩ := branch
    simp only [mentionsElifs, List.append_subset] at reads sets
    apply Confined.bind (Expr.confined_evalIn settings false condition reads.1 sets.1)
    intro v
    split
    next => exact confined_runAll settings body reads.2.1 sets.2.1
    next => exact confined_runElifs settings rest lastResort reads.2.2 sets.2.2 last

theorem confined_runOtherwise (settings : Settings) (otherwise : Option (List Stmt))
    (reads : mentionsOtherwise true otherwise ⊆ names)
    (sets : mentionsOtherwise false otherwise ⊆ targets) :
    Confined names targets (runOtherwise settings otherwise : Run E Unit) := by
  cases otherwise with
  | none => exact confined_pure ()
  | some body => exact confined_runAll settings body reads sets

end

end Stmt

theorem Session.run_depends_on_names (settings : Settings) (p : Program) :
    (∀ s t : Session E, s.Agree p.names t →
      (s.run settings p).1 = (t.run settings p).1 ∧
      (s.run settings p).2.Agree p.names (t.run settings p).2 ∧
      ∃ new, (s.run settings p).2.events = s.events ++ new ∧
        (t.run settings p).2.events = t.events ++ new) ∧
    ∀ (s : Session E) (name : String), name ∉ p.targets →
      (s.run settings p).2.environment.binding? name = s.environment.binding? name := by
  have confined : Run.Confined p.names p.targets (Stmt.runAll settings p : Run E Unit) :=
    Stmt.confined_runAll settings p (List.Subset.refl p.names) (List.Subset.refl p.targets)
  refine ⟨fun s t agree => ?_, confined.keeps⟩
  obtain ⟨r, after, after', new, left, right, agree, events, events'⟩ := confined.same s t agree
  rw [Session.run, Session.run, left, right]
  exact ⟨rfl, agree, new, events, events'⟩

def Session.holding (bindings : List (String × Value)) : Session .inMemory :=
  { Session.empty with environment := ⟨bindings⟩ }

-- To the one session `y` is unknown and to the other it is none; only the one has a `w`.
theorem Session.run_depends_on_names_none :
    let settings : Settings := ⟨.isolated, ⟨.v4 [127, 0, 0, 1], 0⟩⟩
    let p : Program := [.expr (.call "print" [.var "x"]), .expr (.assign "x" (.var "y"))]
    let s := holding [("x", .int 1), ("w", .int 5)]
    let t := holding [("x", .int 1), ("y", .none)]
    s.Agree p.names t ∧ (s.run settings p).1 = (t.run settings p).1 ∧
      (s.run settings p).2.Agree p.names (t.run settings p).2 ∧
      (s.run settings p).2.environment.binding? "w" = some (.int 5) := by
  intro settings p s t
  have agree : s.Agree p.names t := by
    refine ⟨?_, rfl, rfl, rfl, rfl, rfl⟩
    intro name member
    have listed : name ∈ ["x", "x", "y"] := member
    simp only [List.mem_cons, List.not_mem_nil, or_false] at listed
    rcases listed with rfl | rfl | rfl <;> rfl
  obtain ⟨alike, kept⟩ := run_depends_on_names settings p
  have free : "w" ∉ p.targets := by decide
  exact ⟨agree, (alike s t agree).1, (alike s t agree).2.1, kept s "w" free⟩

end TableScript
