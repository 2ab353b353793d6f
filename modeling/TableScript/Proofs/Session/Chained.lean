import TableScript.Session.Run
import TableScript.Storage.Database

set_option autoImplicit false

namespace TableScript

variable {E : Engine}

namespace Environment

def setAll (env : Environment) (names : List String) (v : Value) : Environment :=
  names.foldr (fun name bound => bound.set name v) env

theorem binding?_setAll (env : Environment) (names : List String) (v : Value) (name : String) :
    (env.setAll names v).binding? name = if name ∈ names then some v else env.binding? name := by
  induction names with
  | nil => simp [setAll]
  | cons first rest ih =>
    have step : env.setAll (first :: rest) v = (env.setAll rest v).set first v := rfl
    rw [step]
    by_cases same : name = first
    next => simp [same]
    next => simp [binding?_set_of_ne _ _ _ _ same, ih, same]

end Environment

namespace Expr

def isAssignment : Expr → Bool
  | .assign _ _ => true
  | _ => false

def chain (targets : List String) (e : Expr) : Expr := targets.foldr .assign e

def bindAll (targets : List String) (v : Value) : Run E Unit :=
  modify fun s => { s with environment := s.environment.setAll targets v }

-- Only an assignment asks whether its value is to be passed on.
theorem evalIn_of_not_isAssignment (settings : Settings) (passOn : Bool) (e : Expr)
    (h : e.isAssignment = false) :
    evalIn settings passOn e = (e.eval settings : Run E Value) := by
  cases e with
  | assign target value => cases h
  | _ => rfl

theorem bindAll_cons (target : String) (rest : List String) (v : Value) :
    (bindAll (target :: rest) v : Run E Unit) = (do bindAll rest v; bindTo target v) := rfl

theorem evalIn_chain (settings : Settings) (targets : List String) (e : Expr)
    (h : e.isAssignment = false) :
    (evalIn settings true (chain targets e) : Run E Value) = (do
      let v ← e.eval settings
      bindAll targets v
      return v) := by
  induction targets with
  | nil =>
    rw [chain, List.foldr_nil, evalIn_of_not_isAssignment settings true e h]
    exact (bind_pure (e.eval settings : Run E Value)).symm
  | cons target rest ih =>
    have step : chain (target :: rest) e = .assign target (chain rest e) := rfl
    rw [step, evalIn, ih]
    simp only [bindAll_cons, bind_assoc, pure_bind, if_true]

-- The outermost assignment has no value; the ones inside it pass theirs on.
theorem eval_chain (settings : Settings) (first : String) (rest : List String) (e : Expr)
    (h : e.isAssignment = false) :
    ((chain (first :: rest) e).eval settings : Run E Value) = (do
      let v ← e.eval settings
      bindAll (first :: rest) v
      return .none) := by
  have step : chain (first :: rest) e = .assign first (chain rest e) := rfl
  rw [step, eval, evalIn, evalIn_chain settings rest e h]
  simp only [bindAll_cons, bind_assoc, pure_bind, Bool.false_eq_true, if_false]

theorem chain_binds_every_target (settings : Settings) (first : String) (rest : List String)
    (e : Expr) (other : e.isAssignment = false) :
    ((chain (first :: rest) e).eval settings : Run E Value) = (do
      let v ← e.eval settings
      bindAll (first :: rest) v
      return .none) ∧
    (∀ (s after : Session E) (v : Value), (e.eval settings).run.run s = (.ok v, after) →
      ∃ env : Environment,
        ((chain (first :: rest) e).eval settings).run.run s =
          (.ok .none, { after with environment := env }) ∧
        (∀ name ∈ first :: rest, env.binding? name = some v) ∧
        ∀ name ∉ first :: rest, env.binding? name = after.environment.binding? name) ∧
    ∀ (s after : Session E) (err : EvalError), (e.eval settings).run.run s = (.error err, after) →
      ((chain (first :: rest) e).eval settings).run.run s = (.error err, after) := by
  have once := eval_chain (E := E) settings first rest e other
  refine ⟨once, fun s after v evaluated => ?_, fun s after err failed => ?_⟩
  next =>
    refine ⟨after.environment.setAll (first :: rest) v, ?_, fun name member => ?_,
      fun name missing => ?_⟩
    next =>
      rw [once, Run.run_bind, evaluated]
      rfl
    next => rw [Environment.binding?_setAll, if_pos member]
    next => rw [Environment.binding?_setAll, if_neg missing]
  next => rw [once, Run.run_bind, failed]

def printing : Expr := .unary .not (.call "print" [.var "n"])

def countedTo (n : Int) (events : List Event) : Session .inMemory :=
  { Session.empty with environment := ⟨[("n", .int n)]⟩, events := events }

-- The value prints the variable that the chain assigns to twice, and comes out true.
theorem chain_binds_every_target_repeated :
    let settings : Settings := ⟨.isolated, ⟨.v4 [127, 0, 0, 1], 0⟩⟩
    printing.isAssignment = false ∧
    (printing.eval settings).run.run (countedTo 1 []) =
      (.ok (.bool true), countedTo 1 [.print "1"]) ∧
    ∃ env : Environment,
      ((chain ["n", "m", "n"] printing).eval settings).run.run (countedTo 1 []) =
        (.ok .none, { countedTo 1 [.print "1"] with environment := env }) ∧
      (∀ name ∈ ["n", "m", "n"], env.binding? name = some (.bool true)) ∧
      ∀ name ∉ ["n", "m", "n"],
        env.binding? name = (countedTo 1 [.print "1"]).environment.binding? name := by
  intro settings
  have other : printing.isAssignment = false := rfl
  have evaluated : (printing.eval settings).run.run (countedTo 1 []) =
      (.ok (.bool true), countedTo 1 [.print "1"]) := rfl
  have chained := chain_binds_every_target (E := .inMemory) settings "n" ["m", "n"] printing other
  exact ⟨other, evaluated, chained.2.1 _ _ _ evaluated⟩

end Expr

end TableScript
