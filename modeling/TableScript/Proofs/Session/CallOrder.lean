import TableScript.Session.Run

set_option autoImplicit false

namespace TableScript

variable {E : Engine}

structure CallNode where
  function : String
  args : List Expr

namespace Expr

mutual

def calls : Expr → List CallNode
  | .int _ | .str _ | .bool _ | .var _ => []
  | .dict entries => callsEntries entries
  | .binary _ left right => left.calls ++ right.calls
  | .unary _ operand => operand.calls
  | .assign _ value => value.calls
  | .call function args => callsAll args ++ [⟨function, args⟩]
  | .index container position => container.calls ++ position.calls

def callsAll : List Expr → List CallNode
  | [] => []
  | e :: rest => e.calls ++ callsAll rest

def callsEntries : List (Expr × Expr) → List CallNode
  | [] => []
  | (key, value) :: rest => key.calls ++ (value.calls ++ callsEntries rest)

end

end Expr

structure Carried where
  place : Nat
  function : Builtin
  args : List Expr
  values : List Value

def Carried.mark (c : Carried) : CallNode × Nat := (⟨c.function.name, c.args⟩, c.place)

abbrev Recorded (E : Engine) (α : Type) := ExceptT EvalError (StateM (Session E × List Carried)) α

namespace Recorded

def ofRun {α : Type} (x : Run E α) : Recorded E α :=
  ExceptT.mk fun state => ((x.run.run state.1).1, ((x.run.run state.1).2, state.2))

def carryOut (settings : Settings) (c : Carried) : Recorded E Unit := do
  modify fun state => (state.1, state.2 ++ [c])
  ofRun (c.function.call settings c.values)

end Recorded

namespace Expr

open Recorded

mutual

def record (settings : Settings) (place : Nat) (passOn : Bool) : Expr → Recorded E Value
  | .int n => pure (.int n)
  | .str s => pure (Value.ofLiteral s)
  | .bool b => pure (.bool b)
  | .dict entries => do
    let d ← recordEntries settings place Dict.empty entries
    return .dict d
  | .binary op left right => do
    let v ← record settings place false left
    let w ← record settings (place + left.calls.length) false right
    ofRun (Run.ofOperator (Value.binary op v w))
  | .unary op operand => do
    let v ← record settings place false operand
    ofRun (Run.ofOperator (Value.unary op v))
  | .var name => ofRun (lookUp name)
  | .assign target value => do
    let v ← record settings place true value
    ofRun (bindTo target v)
    return if passOn then v else .none
  | .call function args =>
    match Builtin.ofName? function with
    | none => throw (.undefinedFunction function)
    | some b => do
      let vs ← recordAll settings place args
      carryOut settings ⟨place + (callsAll args).length, b, args, vs⟩
      return .none
  | .index container position => do
    let v ← record settings place false container
    let i ← record settings (place + container.calls.length) false position
    ofRun (Run.ofIndex (Value.subscript v i))

def recordAll (settings : Settings) (place : Nat) : List Expr → Recorded E (List Value)
  | [] => pure []
  | e :: rest => do
    let v ← record settings place false e
    let vs ← recordAll settings (place + e.calls.length) rest
    return v :: vs

def recordEntries (settings : Settings) (place : Nat) (d : Dict Value) :
    List (Expr × Expr) → Recorded E (Dict Value)
  | [] => pure d
  | (key, value) :: rest => do
    let k ← record settings place false key
    let v ← record settings (place + key.calls.length) false value
    let grown ← ofRun (Run.ofOperator (Value.insertEntry d k v))
    recordEntries settings (place + key.calls.length + value.calls.length) grown rest

end

def recordProgram (settings : Settings) (place : Nat) : List Expr → Recorded E Unit
  | [] => pure ()
  | e :: rest => do
    let _ ← record settings place false e
    recordProgram settings (place + e.calls.length) rest

end Expr

/-- The calls lead from session to session, in turn, and only variables change between them. -/
inductive CarriedOut (settings : Settings) : Session E → List Carried → Session E → Prop where
  | nothing (s : Session E) (env : Environment) : CarriedOut settings s [] { s with environment := env }
  | call (s : Session E) (env : Environment) (c : Carried) (rest : List Carried) (after : Session E)
      (later : CarriedOut settings
        ((c.function.call settings c.values).run.run { s with environment := env }).2 rest after) :
      CarriedOut settings s (c :: rest) after

namespace CarriedOut

variable {settings : Settings}

theorem rebound {s after : Session E} {made : List Carried} (env : Environment)
    (h : CarriedOut settings { s with environment := env } made after) :
    CarriedOut settings s made after := by
  cases h with
  | nothing _ env' => exact .nothing s env'
  | call _ env' c rest _ later => exact .call s env' c rest after later

theorem append {s middle after : Session E} {first second : List Carried}
    (left : CarriedOut settings s first middle) (right : CarriedOut settings middle second after) :
    CarriedOut settings s (first ++ second) after := by
  induction left with
  | nothing s env => exact right.rebound env
  | call s env c rest middle _ ih => exact .call s env c _ after (ih right)

-- Printing adds a line and cannot fail.
theorem events_of_print {s after : Session E} {made : List Carried}
    (h : CarriedOut settings s made after) (only : ∀ c ∈ made, c.function = .print) :
    after.events =
      s.events ++ made.map fun c => .print (String.join (c.values.map Value.output)) := by
  induction h with
  | nothing s env => simp
  | call s env c rest after _ ih =>
    obtain ⟨first, others⟩ := List.forall_mem_cons.mp only
    have line : ((c.function.call settings c.values).run.run { s with environment := env }).2.events =
        s.events ++ [.print (String.join (c.values.map Value.output))] := by
      rw [first]
      rfl
    rw [ih others, line, List.map_cons, List.append_assoc, List.singleton_append]

end CarriedOut

namespace Recorded

variable {α β : Type} {settings : Settings} {place : Nat} {nodes others : List CallNode}

/--
A step with a record does what the step without it does. The calls that it reaches are the first ones
of `nodes`, in front of which `place` calls stand, and all of them if it succeeds.
-/
structure Follows (settings : Settings) (place : Nat) (nodes : List CallNode) (x : Run E α)
    (y : Recorded E α) : Prop where
  record : ∀ (s : Session E) (log : List Carried), ∃ r after made, x.run.run s = (r, after) ∧
    y.run.run (s, log) = (r, (after, log ++ made)) ∧ CarriedOut settings s made after ∧
    made.map Carried.mark <+: nodes.zipIdx place ∧
    ∀ a, r = .ok a → made.map Carried.mark = nodes.zipIdx place

theorem follows_pure (a : α) : Follows settings place [] (pure a : Run E α) (pure a) where
  record s log := by
    refine ⟨.ok a, s, [], rfl, ?_, .nothing s s.environment, by simp, by simp⟩
    rw [List.append_nil]
    rfl

theorem follows_throw (e : EvalError) (nodes : List CallNode) :
    Follows settings place nodes (throw e : Run E α) (throw e) where
  record s log := by
    refine ⟨.error e, s, [], rfl, ?_, .nothing s s.environment, by simp, by simp⟩
    rw [List.append_nil]
    rfl

theorem follows_ofRun (x : Run E α)
    (only : ∀ s, ∃ env, (x.run.run s).2 = { s with environment := env }) :
    Follows settings place [] x (ofRun x) where
  record s log := by
    obtain ⟨env, same⟩ := only s
    refine ⟨(x.run.run s).1, (x.run.run s).2, [], rfl, ?_, ?_, by simp, by simp⟩
    next =>
      rw [List.append_nil]
      rfl
    next =>
      rw [same]
      exact .nothing s env

theorem follows_carryOut (function : String) (args : List Expr) (b : Builtin) (vs : List Value)
    (known : b.name = function) :
    Follows settings place [⟨function, args⟩] (b.call settings vs : Run E Unit)
      (carryOut settings ⟨place, b, args, vs⟩) where
  record s log := by
    refine ⟨_, _, [⟨place, b, args, vs⟩], rfl, rfl, ?_, ?_, ?_⟩
    next => exact .call s s.environment _ [] _ (.nothing _ _)
    next => simp [Carried.mark, known]
    next => simp [Carried.mark, known]

-- What the second step reaches comes behind all that the first one has to reach.
theorem Follows.bind {x : Run E α} {y : Recorded E α} {f : α → Run E β} {g : α → Recorded E β}
    (first : Follows settings place nodes x y)
    (next : ∀ a, Follows settings (place + nodes.length) others (f a) (g a)) :
    Follows settings place (nodes ++ others) (x >>= f) (y >>= g) where
  record s log := by
    obtain ⟨r, middle, made, plain, recorded, carried, within, whole⟩ := first.record s log
    rw [Run.run_bind, Run.run_bind, plain, recorded, List.zipIdx_append]
    cases r with
    | error e =>
      refine ⟨.error e, middle, made, rfl, rfl, carried, ?_, by simp⟩
      exact within.trans (List.prefix_append _ _)
    | ok a =>
      obtain ⟨r, after, more, plain, recorded, later, within, rest⟩ :=
        (next a).record middle (log ++ made)
      have all := whole a rfl
      refine ⟨r, after, made ++ more, plain, ?_, carried.append later, ?_, fun b ok => ?_⟩
      next => simpa using recorded
      next =>
        rw [List.map_append, all]
        exact (List.prefix_append_right_inj _).mpr within
      next => rw [List.map_append, all, rest b ok]

theorem Follows.quietly {x : Run E α} {y : Recorded E α} {f : α → Run E β} {g : α → Recorded E β}
    (first : Follows settings place nodes x y)
    (next : ∀ a, Follows settings (place + nodes.length) [] (f a) (g a)) :
    Follows settings place nodes (x >>= f) (y >>= g) := by
  have both := first.bind next
  rwa [List.append_nil] at both

theorem follows_lift {ε : Type} (lift : Except ε α → Run E α) (wrap : ε → EvalError)
    (ok : ∀ a, lift (.ok a) = pure a) (error : ∀ e, lift (.error e) = throw (wrap e))
    (r : Except ε α) : Follows settings place [] (lift r) (ofRun (lift r)) := by
  apply follows_ofRun
  intro s
  refine ⟨s.environment, ?_⟩
  cases r with
  | ok a => rw [ok]; rfl
  | error e => rw [error]; rfl

theorem follows_ofOperator (r : Except OperatorError α) :
    Follows settings place [] (Run.ofOperator r : Run E α) (ofRun (Run.ofOperator r)) :=
  follows_lift Run.ofOperator .operator (fun _ => rfl) (fun _ => rfl) r

end Recorded

theorem Builtin.name_of_ofName? {function : String} {b : Builtin} (h : ofName? function = some b) :
    b.name = function := by
  simpa using List.find?_some h

namespace Expr

open Recorded

variable {settings : Settings}

theorem follows_lookUp (place : Nat) (name : String) :
    Follows settings place [] (lookUp name : Run E Value) (ofRun (lookUp name)) := by
  apply follows_ofRun
  intro s
  refine ⟨s.environment, ?_⟩
  have read (f : Session E → Run E Value) : (get >>= f : Run E Value).run.run s = (f s).run.run s := rfl
  rw [lookUp, read]
  cases s.environment.get? name <;> rfl

theorem follows_bindTo (place : Nat) (name : String) (v : Value) :
    Follows settings place [] (bindTo name v : Run E Unit) (ofRun (bindTo name v)) :=
  follows_ofRun _ fun s => ⟨s.environment.set name v, rfl⟩

mutual

theorem follows_record (settings : Settings) (place : Nat) (passOn : Bool) (e : Expr) :
    Follows settings place e.calls (evalIn settings passOn e : Run E Value)
      (record settings place passOn e) := by
  cases e with
  | int | str | bool => exact follows_pure _
  | var name => exact follows_lookUp place name
  | dict entries =>
    apply (follows_recordEntries settings place Dict.empty entries).quietly
    intro d
    exact follows_pure _
  | binary op left right =>
    apply (follows_record settings place false left).bind
    intro v
    apply (follows_record settings _ false right).quietly
    intro w
    exact follows_ofOperator _
  | unary op operand =>
    apply (follows_record settings place false operand).quietly
    intro v
    exact follows_ofOperator _
  | assign target value =>
    apply (follows_record settings place true value).quietly
    intro v
    apply (follows_bindTo _ target v).quietly
    intro _
    exact follows_pure _
  | call function args =>
    unfold evalIn record
    cases known : Builtin.ofName? function with
    | none => exact follows_throw _ _
    | some b =>
      apply (follows_recordAll settings place args).bind
      intro vs
      apply (follows_carryOut function args b vs (Builtin.name_of_ofName? known)).quietly
      intro _
      exact follows_pure _
  | index container position =>
    apply (follows_record settings place false container).bind
    intro v
    apply (follows_record settings _ false position).quietly
    intro i
    exact follows_lift Run.ofIndex .index (fun _ => rfl) (fun _ => rfl) _

theorem follows_recordAll (settings : Settings) (place : Nat) (es : List Expr) :
    Follows settings place (callsAll es) (evalAll settings es : Run E (List Value))
      (recordAll settings place es) := by
  cases es with
  | nil => exact follows_pure _
  | cons e rest =>
    apply (follows_record settings place false e).bind
    intro v
    apply (follows_recordAll settings _ rest).quietly
    intro vs
    exact follows_pure _

theorem follows_recordEntries (settings : Settings) (place : Nat) (d : Dict Value)
    (entries : List (Expr × Expr)) :
    Follows settings place (callsEntries entries) (evalEntries settings d entries : Run E (Dict Value))
      (recordEntries settings place d entries) := by
  match entries with
  | [] => exact follows_pure _
  | (key, value) :: rest =>
    apply (follows_record settings place false key).bind
    intro k
    apply (follows_record settings _ false value).bind
    intro v
    rw [← List.nil_append (callsEntries rest)]
    apply (follows_ofOperator _).bind
    intro grown
    exact follows_recordEntries settings _ grown rest

end

theorem follows_recordProgram (settings : Settings) (place : Nat) (es : List Expr) :
    Follows settings place (callsAll es) (Stmt.runAll settings (es.map .expr) : Run E Unit)
      (recordProgram settings place es) := by
  induction es generalizing place with
  | nil => exact follows_pure ()
  | cons e rest ih =>
    have step : (Stmt.runAll settings ((e :: rest).map .expr) : Run E Unit) = (do
        let _ ← evalIn settings false e
        Stmt.runAll settings (rest.map .expr)) := by
      rw [List.map_cons, Stmt.runAll, Stmt.run, bind_assoc]
      rfl
    rw [step]
    apply (follows_record settings place false e).bind
    intro _
    exact ih _

end Expr

theorem Session.calls_run_once_in_order (settings : Settings) (es : List Expr) (s : Session E) :
    ∃ made : List Carried,
      (Expr.recordProgram settings 0 es).run.run (s, []) =
        ((s.run settings (es.map .expr)).1, ((s.run settings (es.map .expr)).2, made)) ∧
      CarriedOut settings s made (s.run settings (es.map .expr)).2 ∧
      made.map Carried.mark <+: (Expr.callsAll es).zipIdx ∧
      ((s.run settings (es.map .expr)).1 = .ok () →
        made.map Carried.mark = (Expr.callsAll es).zipIdx ∧
        ((∀ node ∈ Expr.callsAll es, node.function = "print") →
          (s.run settings (es.map .expr)).2.events =
            s.events ++ made.map fun c => .print (String.join (c.values.map Value.output)))) := by
  obtain ⟨r, after, made, plain, recorded, carried, within, whole⟩ :=
    (Expr.follows_recordProgram settings 0 es).record s []
  have ran : s.run settings (es.map .expr) = (r, after) := plain
  rw [ran]
  refine ⟨made, recorded, carried, within, fun ok => ?_⟩
  have all := whole () ok
  refine ⟨all, fun printing => carried.events_of_print fun c member => ?_⟩
  have marked : c.mark ∈ (Expr.callsAll es).zipIdx := all ▸ List.mem_map_of_mem member
  have named : c.function.name = Builtin.name .print :=
    printing _ (List.fst_mem_of_mem_zipIdx marked)
  have known := congrArg Builtin.ofName? named
  rwa [Builtin.ofName?_name, Builtin.ofName?_name, Option.some.injEq] at known

end TableScript
